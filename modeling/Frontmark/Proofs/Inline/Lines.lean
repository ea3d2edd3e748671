import Frontmark.Proofs.Body.Calm
import Frontmark.Proofs.Inline.Pairing
import Frontmark.Proofs.Inline.Reading
import Frontmark.Proofs.Text.Lines

/-! The trees that are read of lines.

Main statement: the text of the trees is the text that they have been read from (`read_lines`). -/

set_option autoImplicit false

namespace Frontmark.Inline

open Frontmark.Markup (RoseTree Value)
open Frontmark.Markup.RoseTree (CalmAll calmAll_append spellAll spellAll_append)
open Frontmark.Text

variable {o : Options} {s : State} {rest : List Char} {parts : List Part}

section Texts

theorem toList_spellAll_texts (texts : List (List Char)) : (spellAll (texts.map textTree)).toList = texts.flatten := by
  induction texts with
  | nil => rfl
  | cons text texts ih => simp [spellAll, RoseTree.spell, textTree, ih]

theorem calmAll_texts {texts : List (List Char)} (prose : ∀ c ∈ texts.flatten, isProse o c = true) :
    CalmAll o (texts.map textTree) := by
  induction texts with
  | nil => trivial
  | cons text texts ih =>
    rw [List.flatten_cons] at prose
    have no {d : Char} (member : d ∈ special) : d ∉ text := fun inside =>
      ne_of_isProse (prose d (List.mem_append_left _ inside)) member rfl
    refine ⟨⟨?_, trivial⟩, ih fun c inside => prose c (List.mem_append_right _ inside)⟩
    rw [Value.Calm, String.toList_ofList]
    refine ⟨no (by decide), fun autolink inside => ?_⟩
    exact notMem_extended (prose '@' (List.mem_append_left _ inside)) (by simp [extended, autolink])

theorem map_tree_textTree (texts : List (List Char)) :
    (texts.map fun text => Piece.tree (textTree text)) = (texts.map textTree).map Piece.tree := by
  rw [List.map_map]
  rfl

end Texts

/-- What comes of a text: its pieces, and the trees that they make. -/
def Becomes (ctx : Context) (s : State) (text : List Char) (s' : State) : Prop :=
  ∃ pieces trees, Reads ctx s text pieces s' ∧ Pairs pieces trees ∧ (spellAll trees).toList = text ∧ CalmAll ctx.options trees

theorem Becomes.append {ctx : Context} {s' s'' : State} {text more : List Char} (first : Becomes ctx s text s')
    (second : Becomes ctx s' more s'') : Becomes ctx s (text ++ more) s'' := by
  obtain ⟨pieces, trees, reads, pairs, spelled, calm⟩ := first
  obtain ⟨pieces', trees', reads', pairs', spelled', calm'⟩ := second
  refine ⟨_, _, reads.append reads', pairs.append pairs', ?_, calmAll_append.mpr ⟨calm, calm'⟩⟩
  rw [spellAll_append, String.toList_append, spelled, spelled']

/-- Nothing is open that could change how the text after it is read. -/
structure Fresh (s : State) : Prop where
  soft : Soft s.pieces
  outside : s.inBrackets = false
  ticks : s.ticks.exhausted = false

theorem Becomes.fresh {ctx : Context} {s' : State} {text : List Char} (becomes : Becomes ctx s text s') (fresh : Fresh s) :
    Fresh s' := by
  obtain ⟨pieces, trees, reads, -⟩ := becomes
  exact ⟨reads.soft fresh.soft, reads.inBrackets.trans fresh.outside, reads.exhausted.trans fresh.ticks⟩

/-- What has to stand around a part for it to be read as one. -/
structure Framed (o : Options) (before : List Char) (p : Part) (rest : List Char) : Prop where
  text : p.isText = true → Ends p.chars rest
  opening : ∀ phrase ∈ p.starred?, ∀ c ∈ phrase.head?, Edge o c before
  closing : ∀ phrase ∈ p.starred?, ∀ c ∈ phrase.getLast?, Edge o c rest
  other : p.isText = false → rest.head? ≠ some '\x60'

theorem becomes_starred (ctx : Context) {count : Nat} (single : count = 1 ∨ count = 2) {phrase : List Char}
    (isPhrase : IsPhrase ctx.options phrase)
    (whole : s.rest = List.replicate count '*' ++ (phrase ++ (List.replicate count '*' ++ rest)))
    (before : ∀ c ∈ phrase.head?, Edge ctx.options c s.before) (after : ∀ c ∈ phrase.getLast?, Edge ctx.options c rest)
    (fresh : Fresh s) : ∃ s', Becomes ctx s (List.replicate count '*' ++ (phrase ++ List.replicate count '*')) s' := by
  have some_ : count ≠ 0 := by omega
  obtain ⟨p, q, texts, s', flat, reads⟩ := reads_starred ctx some_ isPhrase whole before after fresh.soft
  rw [map_tree_textTree] at reads
  have inner := toList_spellAll_texts texts
  rw [flat] at inner
  refine ⟨s', _, _, reads, Pairs.starred single p q _, ?_, ⟨?_, calmAll_texts (flat ▸ isPhrase.chars)⟩, trivial⟩
  · obtain rfl | rfl := single <;> simp [spellAll, RoseTree.spell, construct, inner]
  · obtain rfl | rfl := single <;> exact trivial

theorem becomes_part (ctx : Context) {p : Part} (fits : p.Fits ctx.options) (whole : s.rest = p.chars ++ rest)
    (framed : Framed ctx.options s.before p rest) (fresh : Fresh s) : ∃ s', Becomes ctx s p.chars s' := by
  cases p with
  | text prose =>
    obtain ⟨texts, s', flat, reads, -⟩ := reads_prose ctx fits.2 whole (framed.text rfl) fresh.soft
    rw [map_tree_textTree] at reads
    refine ⟨s', _, _, reads, Pairs.of_trees _, ?_, calmAll_texts (flat ▸ fits.2.chars)⟩
    rw [toList_spellAll_texts, flat]
    rfl
  | emph phrase =>
    exact becomes_starred ctx (.inl rfl) fits (whole.trans (by simp [Part.chars])) (framed.opening phrase rfl)
      (framed.closing phrase rfl) fresh
  | strong phrase =>
    exact becomes_starred ctx (.inr rfl) fits (whole.trans (by simp [Part.chars])) (framed.opening phrase rfl)
      (framed.closing phrase rfl) fresh
  | code literal =>
    obtain ⟨s', reads⟩ := reads_code ctx fits whole (framed.other rfl) fresh.ticks
    refine ⟨s', _, _, reads, Pairs.of_tree _, ?_, ⟨trivial, trivial⟩, trivial⟩
    simp [spellAll, RoseTree.spell, Part.chars]
  | link url phrase =>
    obtain ⟨texts, s', flat, reads⟩ := reads_link ctx fits.1 fits.2.2 whole fresh.soft fresh.outside
    rw [map_tree_textTree, (Pairs.of_trees _).pair_eq] at reads
    have inner := toList_spellAll_texts texts
    refine ⟨s', _, _, reads, Pairs.of_tree _, ?_, ⟨trivial, calmAll_texts (flat ▸ fits.1.chars)⟩, trivial⟩
    simp [spellAll, RoseTree.spell, inner, flat, Part.chars]

section Edges

variable {inner : Char}

theorem edge_newline (visible : isBlank inner = false) (rest : List Char) : Edge o inner ('\n' :: rest) where
  visible := visible
  other := by rintro _ ⟨⟩; exact ⟨by decide, fun _ => by decide⟩
  flanks := by
    rintro _ ⟨⟩
    have blank : isBlank '\n' = true := by decide
    simp [flanks, visible, blank]

/-- The character of a text next to the stars. -/
theorem edge_of_isProse {c : Char} {side : List Char} (prose : isProse o c = true) (between : flanks c inner = true) :
    Edge o inner (c :: side) where
  visible := by
    simp only [flanks, Bool.and_eq_true, Bool.not_eq_true'] at between
    exact between.1
  other := by
    rintro _ ⟨⟩
    exact ⟨ne_of_isProse prose (by decide), ne_tilde_of_isProse prose⟩
  flanks := by rintro _ ⟨⟩; exact between

/-- The line has no more characters on this side. -/
def AtBreak (rest : List Char) : Prop :=
  rest = [] ∨ ∃ more, rest = '\n' :: more

theorem AtBreak.edge (ends : AtBreak rest) (visible : isBlank inner = false) : Edge o inner rest := by
  obtain rfl | ⟨more, rfl⟩ := ends
  · exact ⟨visible, nofun, nofun⟩
  · exact edge_newline visible more

theorem AtBreak.stops (ends : AtBreak rest) : Stops rest := by
  rintro c first
  obtain rfl | ⟨more, rfl⟩ := ends
  · cases first
  · obtain rfl : '\n' = c := Option.some.inj first
    decide

theorem AtBreak.head?_ne (ends : AtBreak rest) {c : Char} (other : '\n' ≠ c) : rest.head? ≠ some c := by
  obtain rfl | ⟨more, rfl⟩ := ends
  · exact nofun
  · exact fun first => other (Option.some.inj first)

end Edges

namespace Part

variable {p : Part}

theorem exists_marker (marked : p.isText = false) : ∃ c more, p.chars = c :: more ∧ c ∈ "*\x60[".toList := by
  cases p with
  | text => cases marked
  | emph | strong | code | link => exact ⟨_, _, rfl, by decide⟩

theorem exists_last_marker (marked : p.isText = false) : ∃ c start, p.chars = start ++ [c] ∧ c ∈ "*\x60)".toList := by
  cases p with
  | text => cases marked
  | emph phrase => exact ⟨'*', '*' :: phrase, rfl, by decide⟩
  | strong phrase => exact ⟨'*', '*' :: '*' :: (phrase ++ ['*']), by simp [chars], by decide⟩
  | code literal => exact ⟨'\x60', '\x60' :: literal, rfl, by decide⟩
  | link url phrase => exact ⟨')', '[' :: (phrase ++ ']' :: '(' :: url), by simp [chars], by decide⟩

theorem exists_text (text : p.isText = true) : ∃ prose, p = .text prose := by
  cases p with
  | text prose => exact ⟨prose, rfl⟩
  | _ => cases text

theorem isText_of_starred {phrase : List Char} (stars : phrase ∈ p.starred?) : p.isText = false := by
  cases p with
  | text => cases stars
  | _ => rfl

theorem Fits.phrase (fits : p.Fits o) {phrase : List Char} (stars : phrase ∈ p.starred?) : IsPhrase o phrase := by
  cases p with
  | emph | strong =>
    obtain rfl := Option.some.inj stars
    exact fits
  | _ => cases stars

theorem isLink_of_bracket {more : List Char} (bracket : p.chars = '[' :: more) (marked : p.isText = false) :
    p.isLink = true := by
  cases p with
  | text => cases marked
  | link => rfl
  | _ => cases bracket

end Part

theorem IsPhrase.first_visible {phrase : List Char} (isPhrase : IsPhrase o phrase) : ∀ c ∈ phrase.head?, isBlank c = false := by
  obtain ⟨c, more, rfl, visible, -⟩ := isPhrase.exists_first
  rintro _ ⟨⟩
  exact visible

theorem IsPhrase.last_visible {phrase : List Char} (isPhrase : IsPhrase o phrase) :
    ∀ c ∈ phrase.getLast?, isBlank c = false := by
  obtain ⟨c, start, rfl, visible, -⟩ := isPhrase.exists_last
  rintro d last
  obtain rfl : c = d := by simpa using last
  exact visible

/-- What the chain of parts says about the neighbours of the first one. -/
theorem framed_of_meets {before : List Char} {p : Part} (fits : ∀ q ∈ p :: parts, q.Fits o)
    (meets : (p :: parts).IsChain Part.Meets) (last : (lineChars (p :: parts)).getLast? ≠ some ' ')
    (ends : AtBreak rest) (opening : ∀ phrase ∈ p.starred?, ∀ c ∈ phrase.head?, Edge o c before) :
    Framed o before p (lineChars parts ++ rest) := by
  cases parts with
  | nil =>
    refine ⟨fun text => ⟨ends.stops, fun _ => ?_, fun first => absurd first (ends.head?_ne (by decide))⟩, opening, ?_,
      fun _ => ends.head?_ne (by decide)⟩
    · obtain ⟨prose, rfl⟩ := Part.exists_text text
      simpa [lineChars, Part.chars] using last
    · exact fun phrase stars c final => ends.edge (((fits p (by simp)).phrase stars).last_visible c final)
  | cons q parts =>
    have meet : p.Meets q := (List.isChain_cons_cons.mp meets).1
    have fit := fits q (by simp)
    have whole : lineChars (q :: parts) ++ rest = q.chars ++ (lineChars parts ++ rest) := by simp [lineChars]
    rw [whole]
    have text (other : p.isText = false) : ∃ prose, q = .text prose :=
      Part.exists_text (by simpa [other] using meet.alternate.symm)
    refine ⟨fun text => ?_, opening, ?_, fun other => ?_⟩
    · have marked : q.isText = false := by simpa [text] using meet.alternate
      obtain ⟨c, more, marker, member⟩ := Part.exists_marker marked
      rw [marker]
      refine ⟨fun d first => ?_, fun first => ?_, fun first => ?_⟩
      · obtain rfl : c = d := Option.some.inj first
        exact (by decide : "*\x60[".toList ⊆ "\n*\x60[]".toList) member
      · obtain rfl : c = '\n' := Option.some.inj first
        exact absurd member (by decide)
      · obtain rfl : c = '[' := Option.some.inj first
        exact meet.image (Part.isLink_of_bracket marker marked)
    · rintro phrase stars d final
      obtain ⟨prose, rfl⟩ := text (Part.isText_of_starred stars)
      obtain ⟨c, prose, rfl⟩ := List.exists_cons_of_ne_nil fit.1
      exact edge_of_isProse (fit.2.chars c List.mem_cons_self) (meet.after phrase stars c rfl d final)
    · obtain ⟨prose, rfl⟩ := text other
      obtain ⟨c, more, rfl⟩ := List.exists_cons_of_ne_nil fit.1
      exact fun first => ne_of_isProse (fit.2.chars c List.mem_cons_self) (by decide) (Option.some.inj first)

theorem becomes_parts (ctx : Context) (fits : ∀ p ∈ parts, p.Fits ctx.options) (meets : parts.IsChain Part.Meets)
    (last : (lineChars parts).getLast? ≠ some ' ')
    (whole : s.rest = lineChars parts ++ rest) (ends : AtBreak rest)
    (before : ∀ p ∈ parts.head?, ∀ phrase ∈ p.starred?, ∀ c ∈ phrase.head?, Edge ctx.options c s.before) (fresh : Fresh s) :
    ∃ s', Becomes ctx s (lineChars parts) s' := by
  induction parts generalizing s with
  | nil => exact ⟨s, [], [], .refl, .nil, rfl, trivial⟩
  | cons p parts ih =>
    have split : lineChars (p :: parts) = p.chars ++ lineChars parts := by simp [lineChars]
    rw [split, List.append_assoc] at whole
    have framed := framed_of_meets fits meets last ends (before p rfl)
    obtain ⟨s₁, first⟩ := becomes_part ctx (fits p List.mem_cons_self) whole framed fresh
    obtain ⟨pieces, trees, reads, -⟩ := id first
    have before₁ : ∀ q ∈ parts.head?, ∀ phrase ∈ q.starred?, ∀ c ∈ phrase.head?, Edge ctx.options c s₁.before := by
      rintro q next phrase stars d initial
      obtain ⟨parts, rfl⟩ := List.head?_eq_some_iff.mp next
      have meet : p.Meets q := (List.isChain_cons_cons.mp meets).1
      obtain ⟨prose, rfl⟩ := Part.exists_text (by simpa [Part.isText_of_starred stars] using meet.alternate)
      obtain ⟨some_, prose'⟩ := fits _ List.mem_cons_self
      obtain ⟨start, c, rfl⟩ : ∃ start c, prose = start ++ [c] := ⟨_, _, (List.dropLast_append_getLast some_).symm⟩
      have between := meet.before phrase stars c (by simp [Part.chars]) d initial
      have side : s₁.before = c :: (start.reverse ++ s.before) := by simp [reads.before, Part.chars]
      rw [side]
      exact edge_of_isProse (prose'.chars c (by simp)) between
    have last₁ : (lineChars parts).getLast? ≠ some ' ' := by
      rintro final
      exact last (by rw [split, List.getLast?_append, final]; rfl)
    obtain ⟨s₂, others⟩ := ih (fun q member => fits q (.tail _ member)) meets.tail last₁ (reads.rest_eq whole) before₁
      (first.fresh fresh)
    exact ⟨s₂, split ▸ first.append others⟩

section Line

variable {lines : List (List Part)}

theorem IsLine.first_char (line : IsLine o parts) :
    ∃ c more, lineChars parts = c :: more ∧ isFirst c = true ∧ (isProse o c = true ∨ c ∈ "*\x60[".toList) := by
  obtain ⟨p, parts, rfl⟩ := List.exists_cons_of_ne_nil line.nonempty
  have fits := line.fits p List.mem_cons_self
  have first := line.first
  have whole : lineChars (p :: parts) = p.chars ++ lineChars parts := by simp [lineChars]
  rw [whole] at first ⊢
  cases text : p.isText with
  | true =>
    obtain ⟨prose, rfl⟩ := Part.exists_text text
    obtain ⟨c, prose, rfl⟩ := List.exists_cons_of_ne_nil fits.1
    exact ⟨c, prose ++ lineChars parts, rfl, by simpa [Part.chars] using first, .inl (fits.2.chars c List.mem_cons_self)⟩
  | false =>
    obtain ⟨c, more, marker, member⟩ := Part.exists_marker text
    exact ⟨c, more ++ lineChars parts, by rw [marker]; rfl, by simpa [marker] using first, .inr member⟩

theorem IsLine.first_visible (line : IsLine o parts) : ∃ c more, lineChars parts = c :: more ∧ isSpace c = false := by
  obtain ⟨c, more, whole, first, prose | marker⟩ := line.first_char
  · refine ⟨c, more, whole, isSpace_of_isProse prose ?_⟩
    rintro rfl
    exact absurd first (by decide)
  · exact ⟨c, more, whole, (by decide : ∀ c ∈ "*\x60[".toList, isSpace c = false) c marker⟩

theorem IsLine.last_char (line : IsLine o parts) :
    ∀ c ∈ (lineChars parts).getLast?, c ≠ ' ' ∧ (isProse o c = true ∨ c ∈ "*\x60)".toList) := by
  rintro c last
  refine ⟨fun space => line.last (space ▸ last), ?_⟩
  obtain ⟨start, p, rfl⟩ : ∃ start p, parts = start ++ [p] :=
    ⟨_, _, (List.dropLast_append_getLast line.nonempty).symm⟩
  have fits := line.fits p (by simp)
  have whole : lineChars (start ++ [p]) = lineChars start ++ p.chars := by simp [lineChars]
  rw [whole] at last
  cases text : p.isText with
  | true =>
    obtain ⟨prose, rfl⟩ := Part.exists_text text
    change c ∈ (lineChars start ++ prose).getLast? at last
    rw [List.getLast?_append_of_ne_nil _ fits.1] at last
    exact .inl (fits.2.chars c (List.mem_of_getLast? last))
  | false =>
    obtain ⟨d, before, marker, member⟩ := Part.exists_last_marker text
    rw [marker, ← List.append_assoc, List.getLast?_concat] at last
    obtain rfl : d = c := Option.some.inj last
    exact .inr member

theorem IsLine.last_visible (line : IsLine o parts) : ∀ c ∈ (lineChars parts).getLast?, isSpace c = false := by
  rintro c last
  obtain ⟨space, prose | marker⟩ := line.last_char c last
  · exact isSpace_of_isProse prose space
  · exact (by decide : ∀ c ∈ "*\x60)".toList, isSpace c = false) c marker

theorem IsLine.reverse_visible (line : IsLine o parts) :
    ∃ c more, (lineChars parts).reverse = c :: more ∧ isSpace c = false := by
  obtain ⟨c, more, whole, -⟩ := line.first_visible
  obtain ⟨d, start, reversed⟩ := List.exists_cons_of_ne_nil (l := (lineChars parts).reverse) (by simp [whole])
  refine ⟨d, start, reversed, line.last_visible d ?_⟩
  rw [← List.head?_reverse, reversed]
  rfl

theorem Part.notMem_chars {p : Part} (fits : p.Fits o) {d : Char} (control : isControl d = true) (member : d ∈ special)
    (code_ : isCodeChar d = false) : d ∉ p.chars := by
  have marks : d ∉ "*\x60[]()".toList := by
    rintro inside
    rw [(by decide : ∀ c ∈ "*\x60[]()".toList, isControl c = false) d inside] at control
    cases control
  have prose {text : List Char} (chars : ∀ c ∈ text, isProse o c = true) : d ∉ text := fun inside =>
    ne_of_isProse (chars d inside) member rfl
  simp only [String.reduceToList, List.mem_cons, List.not_mem_nil, or_false, not_or] at marks
  cases p with
  | text => exact prose fits.2.chars
  | emph | strong => simp [chars, marks, prose fits.chars]
  | code literal =>
    have clear : d ∉ literal := fun inside => by
      rw [fits.2.2 d inside] at code_
      cases code_
    simp [chars, marks, clear]
  | link url phrase =>
    have clear : d ∉ url := fun inside => by
      have char := fits.2.2 d inside
      simp [isUrlChar, control] at char
    simp [chars, marks, prose fits.1.chars, clear]

/-- A line ends nowhere before its end. -/
theorem IsLine.notMem (line : IsLine o parts) {d : Char} (member : d ∈ "\n\r\x00".toList) : d ∉ lineChars parts := by
  obtain ⟨control, isSpecial, code_⟩ :=
    (by decide : ∀ d ∈ "\n\r\x00".toList, isControl d = true ∧ d ∈ special ∧ isCodeChar d = false) d member
  rintro inside
  obtain ⟨p, among, own⟩ := List.mem_flatMap.mp inside
  exact Part.notMem_chars (line.fits p among) control isSpecial code_ own

theorem joined_visible (some_ : lines ≠ []) (all : ∀ line ∈ lines, IsLine o line) :
    ∃ c more, joined (lines.map lineChars) = c :: more ∧ isSpace c = false := by
  obtain ⟨parts, lines, rfl⟩ := List.exists_cons_of_ne_nil some_
  obtain ⟨c, more, first, visible⟩ := (all parts List.mem_cons_self).first_visible
  rw [List.map_cons, first]
  exact ⟨c, _, joined_append_cons [c] more _, visible⟩

theorem becomes_lines (ctx : Context) (some_ : lines ≠ []) (all : ∀ line ∈ lines, IsLine ctx.options line)
    (whole : s.rest = joined (lines.map lineChars)) (before : AtBreak s.before)
    (fresh : Fresh s) :
    ∃ s', Becomes ctx s (joined (lines.map lineChars)) s' := by
  induction lines generalizing s with
  | nil => contradiction
  | cons parts lines ih =>
    obtain ⟨line, others⟩ := List.forall_mem_cons.mp all
    have opening : ∀ p ∈ parts.head?, ∀ phrase ∈ p.starred?, ∀ c ∈ phrase.head?, Edge ctx.options c s.before :=
      fun p next phrase stars c initial =>
        before.edge (((line.fits p (List.mem_of_head? next)).phrase stars).first_visible c initial)
    by_cases none_ : lines = []
    · subst none_
      rw [List.map_singleton, joined_singleton] at whole ⊢
      exact becomes_parts ctx line.fits line.meets line.last (whole.trans (List.append_nil _).symm) (.inl rfl)
        opening fresh
    · have more : lines.map lineChars ≠ [] := by simpa using none_
      rw [List.map_cons, joined_cons_of_ne_nil _ more] at whole ⊢
      obtain ⟨s₁, first⟩ := becomes_parts ctx line.fits line.meets line.last whole (.inr ⟨_, rfl⟩)
        opening fresh
      obtain ⟨pieces, trees, reads, -⟩ := id first
      have before₁ : s₁.before.head? ≠ some ' ' := by
        obtain ⟨c, start, same, visible⟩ := line.reverse_visible
        rw [reads.before, same]
        rintro first
        obtain rfl : c = ' ' := Option.some.inj first
        cases visible
      have after₁ : ∀ c ∈ (joined (lines.map lineChars)).head?, isSpaceOrTab c = false := by
        obtain ⟨c, more, same, visible⟩ := joined_visible none_ others
        rw [same]
        rintro d first
        obtain rfl : c = d := Option.some.inj first
        simp only [isSpace, Bool.or_eq_false_iff] at visible
        rw [isSpaceOrTab, visible.1.1.1, visible.1.1.2]
        rfl
      obtain ⟨s₂, break_, -⟩ := reads_break ctx (reads.rest_eq whole) before₁ after₁
      have second : Becomes ctx s₁ ['\n'] s₂ := ⟨_, _, break_, .of_tree _, rfl, ⟨trivial, trivial⟩, trivial⟩
      obtain ⟨s₃, rest⟩ := ih none_ others (break_.rest_eq (reads.rest_eq whole)) (.inr ⟨_, break_.before⟩)
        (second.fresh (first.fresh fresh))
      exact ⟨s₃, first.append (second.append rest)⟩

/-- Lines that belong to one block are read as trees whose text is that of the lines. -/
theorem read_lines (ctx : Context) (quota : Nat) (some_ : lines ≠ []) (all : ∀ line ∈ lines, IsLine ctx.options line)
    {source : List Char} (trimmed : dropSpacesEnd source = joined (lines.map lineChars)) :
    ∃ trees, read ctx quota source = (trees, quota) ∧ (spellAll trees).toList = joined (lines.map lineChars) ∧
      CalmAll ctx.options trees := by
  obtain ⟨s, pieces, trees, reads, pairs, spelled, calm⟩ := becomes_lines ctx some_ all
    (s := { rest := joined (lines.map lineChars), quota }) rfl (.inl rfl) ⟨nofun, rfl, rfl⟩
  have ended : s.rest = [] := reads.rest_eq (List.append_nil _).symm
  have finished := reads.leads.run_eq ended
  refine ⟨trees, ?_, spelled, calm⟩
  rw [read, trimmed]
  rw [finished, reads.pieces, reads.quota]
  simp [pairs.pair_eq]

end Line

end Frontmark.Inline
