import Frontmark.Proofs.Block.Sequence
import Frontmark.Proofs.Body.Calm
import Frontmark.Proofs.Body.Lines

/-! Bodies in normal form: blocks one after the other with an empty line after each, and perhaps a heading at the end.

Main statement: the trees that such a body is read as are written as the same body (`render_read_normal`). -/

set_option autoImplicit false

namespace Frontmark.Body

open Frontmark.Block (IsInfo Reader Rests Settles Finishes Holds textLine paragraphFrame)
open Frontmark.Inline (IsLine isCodeChar isFirst lineChars)
open Frontmark.Markup (ListStyle RoseTree Value render)
open Frontmark.Markup.RoseTree (spell spellAll)
open Frontmark.Text (isBlank joined terminated)

/-- A block by its content. -/
inductive Chunk where
  | paragraph (lines : List (List Inline.Part))
  | blockQuote (lines : List (List Inline.Part))
  | item (style : ListStyle) (lines : List (List Inline.Part))
  | thematicBreak
  | code (info : List Char) (lines : List (List Char))

/-- Lines with a marker before the first one. -/
def markedLines (marker : List Char) : List (List Inline.Part) → List (List Char)
  | [] => []
  | first :: others => (marker ++ lineChars first) :: others.map lineChars

namespace Chunk

/-- The lines of the block itself, without the empty line after them. -/
def lines : Chunk → List (List Char)
  | paragraph lines => markedLines [] lines
  | blockQuote lines => markedLines "> ".toList lines
  | item style lines => markedLines style.marker.toList lines
  | thematicBreak => ["---".toList]
  | code info lines => ("\x60\x60\x60 ".toList ++ info) :: (lines ++ ["\x60\x60\x60".toList])

def Fits (o : Options) : Chunk → Prop
  | paragraph lines | blockQuote lines | item _ lines => lines ≠ [] ∧ ∀ line ∈ lines, IsLine o line
  | thematicBreak => True
  | code info lines => IsInfo info ∧ ∀ line ∈ lines, ∀ c ∈ line, isCodeChar c = true

instance (o : Options) : (chunk : Chunk) → Decidable (chunk.Fits o)
  | paragraph lines | blockQuote lines | item _ lines =>
    inferInstanceAs (Decidable (lines ≠ [] ∧ ∀ line ∈ lines, IsLine o line))
  | thematicBreak => inferInstanceAs (Decidable True)
  | code info lines => inferInstanceAs (Decidable (IsInfo info ∧ ∀ line ∈ lines, ∀ c ∈ line, isCodeChar c = true))

def text (chunk : Chunk) : List Char :=
  terminated (chunk.lines ++ [[]])

end Chunk

structure Heading (o : Options) where
  level : Nat
  line : List Inline.Part
  low : 1 ≤ level
  high : level ≤ 6
  fits : IsLine o line
  closed : (lineChars line).getLast? ≠ some '#'

def Heading.text {o : Options} (h : Heading o) : List Char :=
  List.replicate h.level '#' ++ ' ' :: lineChars h.line

/-- A body in normal form. -/
structure Normal (o : Options) where
  chunks : List Chunk
  heading : Option (Heading o)
  fits : ∀ chunk ∈ chunks, chunk.Fits o

/-- The text of all blocks. Only a heading has no line break at its end; elsewhere the last one is left out. -/
def Normal.text {o : Options} (b : Normal o) : List Char :=
  match b.heading with
  | none => (b.chunks.flatMap Chunk.text).dropLast
  | some heading => b.chunks.flatMap Chunk.text ++ heading.text

variable {o : Options}

section Reading

variable {r : Reader} {before : List Char}

/-- Read lines that are given without their line breaks. -/
def readLines (o : Options) (r : Reader) (lines : List (List Char)) : Reader :=
  lines.foldl (fun r line => r.readLine o { rest := line ++ ['\n'] } (line ++ ['\n'])) r

theorem readLines_append (lines more : List (List Char)) :
    readLines o r (lines ++ more) = readLines o (readLines o r lines) more :=
  List.foldl_append

theorem readLines_cons (line : List Char) (lines : List (List Char)) :
    readLines o r (line :: lines) = readLines o (r.readLine o { rest := line ++ ['\n'] } (line ++ ['\n'])) lines :=
  rfl

theorem readLines_paragraph {outer : List Block.Frame} (holds : Holds o outer before) {lines : List (List Inline.Part)}
    (all : ∀ line ∈ lines, IsLine o line) (first : List (List Inline.Part)) :
    readLines o ⟨paragraphFrame first :: outer, []⟩ (lines.map lineChars) = ⟨paragraphFrame (first ++ lines) :: outer, []⟩ := by
  induction lines generalizing first with
  | nil => simp [readLines]
  | cons line lines ih =>
    obtain ⟨isLine, others⟩ := List.forall_mem_cons.mp all
    rw [List.map_cons, readLines_cons, ← textLine, holds.readLine isLine, ih others, List.append_assoc, List.singleton_append]

/-- Every kind of paragraph is read alike, once its first line has been. -/
theorem settles_markedLines {marker : List Char} {lines : List (List Inline.Part)} (some_ : lines ≠ [])
    (all : ∀ line ∈ lines, IsLine o line)
    (opens : ∀ parts, IsLine o parts → ∃ outer, Holds o outer (before ++ marker) ∧
      r.readLine o { rest := marker ++ textLine parts } (marker ++ textLine parts) = ⟨paragraphFrame [parts] :: outer, []⟩) :
    Settles o (readLines o r (markedLines marker lines)) (before ++ terminated (markedLines marker lines ++ [[]])) := by
  obtain ⟨first, others, rfl⟩ := List.exists_cons_of_ne_nil some_
  obtain ⟨isLine, rest⟩ := List.forall_mem_cons.mp all
  obtain ⟨outer, holds, opened⟩ := opens first isLine
  have read_ : readLines o r (markedLines marker (first :: others)) = ⟨paragraphFrame (first :: others) :: outer, []⟩ := by
    rw [markedLines, readLines_cons, List.append_assoc, ← textLine, opened, readLines_paragraph holds rest,
      List.singleton_append]
  have text : before ++ terminated (markedLines marker (first :: others) ++ [[]]) =
      before ++ marker ++ (joined ((first :: others).map lineChars) ++ "\n\n".toList) := by
    have ended : terminated ((first :: others).map lineChars) = joined ((first :: others).map lineChars) ++ ['\n'] :=
      Text.terminated_eq_joined (by simp)
    have marked : terminated (markedLines marker (first :: others) ++ [[]]) =
        marker ++ (terminated ((first :: others).map lineChars) ++ ['\n']) := by simp [markedLines, terminated]
    rw [marked, ended]
    simp
  rw [read_, text]
  exact holds.settles (by simp) all

theorem readLines_code {info : List Char} {children : List Block.Draft} {lines : List (List Char)}
    (chars : ∀ line ∈ lines, ∀ c ∈ line, isCodeChar c = true) (first : List (List Char)) :
    readLines o ⟨[Block.codeFrame info first, Block.documentFrame children], []⟩ lines =
      ⟨[Block.codeFrame info (first ++ lines), Block.documentFrame children], []⟩ := by
  induction lines generalizing first with
  | nil => simp [readLines]
  | cons line lines ih =>
    obtain ⟨char, others⟩ := List.forall_mem_cons.mp chars
    rw [readLines_cons, Block.readLine_codeFrame char, ih others, List.append_assoc, List.singleton_append]

theorem Chunk.Fits.settles {chunk : Chunk} (fits : chunk.Fits o) (rests : Rests o r before) :
    Settles o (readLines o r chunk.lines) (before ++ chunk.text) := by
  cases chunk with
  | paragraph lines =>
    refine settles_markedLines fits.1 fits.2 fun parts isLine => ?_
    rw [List.append_nil]
    exact rests.readLine_paragraph isLine
  | blockQuote lines => exact settles_markedLines fits.1 fits.2 fun parts isLine => rests.readLine_blockQuote isLine
  | item style lines => exact settles_markedLines fits.1 fits.2 fun parts isLine => rests.readLine_item style isLine
  | thematicBreak => exact rests.readLine_thematicBreak.settles
  | code info lines =>
    obtain ⟨children, told, opened⟩ := rests.readLine_fence fits.1
    have read_ : readLines o r (Chunk.code info lines).lines =
        (⟨[Block.codeFrame info lines, Block.documentFrame children], []⟩ : Reader).readLine o
          { rest := "\x60\x60\x60\n".toList } "\x60\x60\x60\n".toList := by
      rw [Chunk.lines, readLines_cons, opened, readLines_append, readLines_code fits.2]
      rfl
    have text : (Chunk.code info lines).text =
        "\x60\x60\x60 ".toList ++ info ++ '\n' :: (terminated lines ++ "\x60\x60\x60\n\n".toList) := by
      simp [Chunk.text, Chunk.lines, terminated]
    rw [read_, text]
    exact (Block.rests_fence told fits.1).settles

/-- The lines of blocks with an empty line after each. -/
def linesOf (chunks : List Chunk) : List (List Char) :=
  chunks.flatMap fun chunk => chunk.lines ++ [[]]

theorem linesOf_concat (chunks : List Chunk) (last : Chunk) :
    linesOf (chunks ++ [last]) = (linesOf chunks ++ last.lines) ++ [[]] := by
  simp [linesOf]

theorem terminated_linesOf (chunks : List Chunk) : terminated (linesOf chunks) = chunks.flatMap Chunk.text := by
  induction chunks with
  | nil => rfl
  | cons chunk chunks ih =>
    have split : linesOf (chunk :: chunks) = (chunk.lines ++ [[]]) ++ linesOf chunks := rfl
    rw [split, terminated, List.flatMap_append, ← terminated, ← terminated, ih]
    rfl

theorem rests_linesOf (rests : Rests o r before) {chunks : List Chunk} (fits : ∀ chunk ∈ chunks, chunk.Fits o) :
    Rests o (readLines o r (linesOf chunks)) (before ++ chunks.flatMap Chunk.text) := by
  induction chunks generalizing r before with
  | nil => simpa [linesOf, readLines] using rests
  | cons chunk chunks ih =>
    obtain ⟨fit, others⟩ := List.forall_mem_cons.mp fits
    have split : linesOf (chunk :: chunks) = (chunk.lines ++ [[]]) ++ linesOf chunks := rfl
    have next : Rests o (readLines o r (chunk.lines ++ [[]])) (before ++ chunk.text) := by
      rw [readLines_append]
      exact (fit.settles rests).rests
    rw [split, readLines_append, List.flatMap_cons, ← List.append_assoc]
    exact ih next others

end Reading

section Whole

/-- The lines of the body as they are read. The line break that is left out at the end is that of an empty line. -/
def Normal.lines (b : Normal o) : List (List Char) :=
  match b.heading with
  | none => (linesOf b.chunks).dropLast
  | some heading => linesOf b.chunks ++ [heading.text]

theorem rests_start : Rests o {} [] := by
  have told : Tells o ([] : List Block.Draft).reverse [] := .nil
  exact .document told

theorem Normal.finishes (b : Normal o) : Finishes o (readLines o {} b.lines)
    (b.chunks.flatMap Chunk.text ++ (b.heading.map Heading.text).getD []) := by
  have start : Rests o {} [] := rests_start
  rw [Normal.lines]
  cases ended : b.heading with
  | none =>
    have fits := b.fits
    obtain none_ | ⟨chunks, last, some_⟩ := List.eq_nil_or_concat b.chunks
    · rw [none_]
      exact start.finishes
    · rw [some_, List.concat_eq_append] at fits ⊢
      have earlier : ∀ chunk ∈ chunks, chunk.Fits o := fun chunk member => fits chunk (List.mem_append_left _ member)
      have rests := rests_linesOf start earlier
      have settles := (fits last (by simp)).settles rests
      simp only [linesOf_concat, List.dropLast_concat, readLines_append]
      simpa using settles.finishes
  | some heading =>
    have rests := rests_linesOf start b.fits
    have finished := rests.finishes_heading heading.low heading.high heading.fits heading.closed
    simpa [readLines, Heading.text, textLine] using finished

end Whole

section Lines

theorem clean_lineChars {parts : List Inline.Part} (isLine : IsLine o parts) : IsClean (lineChars parts) := by
  rintro c inside
  have other {d : Char} (member : d ∈ "\n\r\x00".toList) : c ≠ d := by
    rintro rfl
    exact isLine.notMem member inside
  exact ⟨other (by decide), other (by decide), other (by decide)⟩

theorem clean_append {first more : List Char} (clean : IsClean first) (cleanMore : IsClean more) : IsClean (first ++ more) :=
  List.forall_mem_append.mpr ⟨clean, cleanMore⟩

theorem clean_markedLines {marker : List Char} (clean : IsClean marker) {lines : List (List Inline.Part)}
    (all : ∀ line ∈ lines, IsLine o line) : ∀ line ∈ markedLines marker lines, IsClean line := by
  cases lines with
  | nil => exact nofun
  | cons first others =>
    obtain ⟨isLine, rest⟩ := List.forall_mem_cons.mp all
    refine List.forall_mem_cons.mpr ⟨clean_append clean (clean_lineChars isLine), ?_⟩
    rintro line member
    obtain ⟨parts, among, rfl⟩ := List.mem_map.mp member
    exact clean_lineChars (rest parts among)

theorem clean_code {line : List Char} (chars : ∀ c ∈ line, isCodeChar c = true) : IsClean line := by
  rintro c inside
  have char := chars c inside
  simp only [isCodeChar, Bool.and_eq_true, decide_eq_true_eq] at char
  exact ⟨char.1.1.2, char.1.2, char.2⟩

theorem clean_marker (style : ListStyle) : IsClean style.marker.toList := by
  rw [ListStyle.marker]
  cases style.ordered <;> cases style.delimiter <;> decide

theorem Chunk.Fits.clean_lines {chunk : Chunk} (fits : chunk.Fits o) : ∀ line ∈ chunk.lines, IsClean line := by
  cases chunk with
  | paragraph lines => exact clean_markedLines (by decide) fits.2
  | blockQuote lines => exact clean_markedLines (by decide) fits.2
  | item style lines => exact clean_markedLines (clean_marker style) fits.2
  | thematicBreak => exact List.forall_mem_singleton.mpr (by decide)
  | code info lines =>
    have info : IsClean info := clean_code fun c member => by
      have char := fits.1.chars c member
      simp only [Block.isInfoChar, Bool.and_eq_true] at char
      exact char.1.1
    refine List.forall_mem_cons.mpr ⟨clean_append (by decide) info, List.forall_mem_append.mpr ⟨?_, ?_⟩⟩
    · exact fun line member => clean_code (fits.2 line member)
    · exact List.forall_mem_singleton.mpr (by decide)

/-- Characters with which a block can begin. -/
def IsStart (c : Char) : Prop :=
  isFirst c = true ∨ c ∈ ">-#".toList

theorem IsStart.ne_mark {c : Char} (start : IsStart c) : c ≠ '\ufeff' := by
  rintro rfl
  obtain first | marker := start
  · exact absurd first (by decide)
  · exact absurd marker (by decide)

theorem IsStart.visible {c : Char} (start : IsStart c) : isBlank c = false := by
  obtain first | marker := start
  · exact (Block.isFirst_spec first).1
  · exact (by decide : ∀ c ∈ ">-#".toList, isBlank c = false) c marker

theorem Chunk.Fits.exists_first {chunk : Chunk} (fits : chunk.Fits o) :
    ∃ c line others, chunk.lines = (c :: line) :: others ∧ IsStart c := by
  cases chunk with
  | paragraph lines =>
    obtain ⟨parts, others, rfl⟩ := List.exists_cons_of_ne_nil fits.1
    obtain ⟨c, more, first, start, -⟩ := (fits.2 parts List.mem_cons_self).first_char
    exact ⟨c, more, others.map lineChars, by rw [lines, markedLines, List.nil_append, first], .inl start⟩
  | blockQuote lines =>
    obtain ⟨parts, others, rfl⟩ := List.exists_cons_of_ne_nil fits.1
    exact ⟨'>', _, _, rfl, .inr (by decide)⟩
  | item style lines =>
    obtain ⟨parts, others, rfl⟩ := List.exists_cons_of_ne_nil fits.1
    obtain ⟨c, sign, -, whole, first, -⟩ := Block.exists_sign style (lineChars parts)
    exact ⟨c, _, _, by rw [lines, markedLines, whole]; rfl, .inl ((by decide : ∀ c ∈ ['*', '1'], isFirst c = true) c first)⟩
  | thematicBreak => exact ⟨'-', _, _, rfl, .inr (by decide)⟩
  | code info lines => exact ⟨'\x60', _, _, rfl, .inl (by decide)⟩

theorem Heading.exists_first (h : Heading o) : ∃ more, h.text = '#' :: more := by
  obtain ⟨level, line, low, -, -⟩ := h
  obtain ⟨count, rfl⟩ := Nat.exists_eq_add_of_le' low
  exact ⟨_, rfl⟩

theorem Heading.clean_text (h : Heading o) : IsClean h.text := by
  have signs : IsClean (List.replicate h.level '#') := fun c member => by
    rw [List.eq_of_mem_replicate member]
    decide
  exact clean_append signs (List.forall_mem_cons.mpr ⟨by decide, clean_lineChars h.fits⟩)

theorem exists_first_linesOf {chunks : List Chunk} (fits : ∀ chunk ∈ chunks, chunk.Fits o) (some_ : chunks ≠ []) :
    ∃ c line others, linesOf chunks = (c :: line) :: others ∧ others ≠ [] ∧ IsStart c := by
  obtain ⟨chunk, chunks, rfl⟩ := List.exists_cons_of_ne_nil some_
  obtain ⟨c, line, others, first, start⟩ := (fits chunk List.mem_cons_self).exists_first
  exact ⟨c, line, others ++ [[]] ++ linesOf chunks, by simp [linesOf, first], by simp, start⟩

namespace Normal

variable (b : Normal o)

theorem exists_first (some_ : b.lines ≠ []) : ∃ c line others, b.lines = (c :: line) :: others ∧ IsStart c := by
  rw [lines] at some_ ⊢
  cases ended : b.heading with
  | none =>
    have filled : b.chunks ≠ [] := by
      rintro none_
      rw [ended, none_] at some_
      exact some_ rfl
    obtain ⟨c, line, others, whole, more, start⟩ := exists_first_linesOf b.fits filled
    exact ⟨c, line, others.dropLast, by rw [whole, List.dropLast_cons_of_ne_nil more], start⟩
  | some heading =>
    obtain none_ | filled := eq_or_ne b.chunks []
    · obtain ⟨more, first⟩ := heading.exists_first
      exact ⟨'#', more, [], by rw [none_, ← first]; rfl, .inr (by decide)⟩
    · obtain ⟨c, line, others, whole, -, start⟩ := exists_first_linesOf b.fits filled
      exact ⟨c, line, others ++ [heading.text], by rw [whole]; rfl, start⟩

theorem clean_linesOf : ∀ line ∈ linesOf b.chunks, IsClean line := by
  rintro line member
  obtain ⟨chunk, among, inside⟩ := List.mem_flatMap.mp member
  obtain own | last := List.mem_append.mp inside
  · exact (b.fits chunk among).clean_lines line own
  · rw [List.mem_singleton.mp last]
    exact nofun

theorem text_of_none (ended : b.heading = none) : b.text = terminated b.lines := by
  simp only [text, lines, ended, ← terminated_linesOf]
  obtain none_ | ⟨chunks, last, some_⟩ := List.eq_nil_or_concat b.chunks
  · rw [none_]
    rfl
  · rw [some_, List.concat_eq_append, linesOf_concat, List.dropLast_concat]
    simp [terminated, -List.append_assoc]

/-- Only an empty body has no empty line at its end that could be left out. -/
theorem chunks_text_of_none (ended : b.heading = none) (some_ : b.chunks ≠ []) :
    b.chunks.flatMap Chunk.text = b.text ++ ['\n'] := by
  rw [text_of_none b ended, ← terminated_linesOf]
  simp only [lines, ended]
  obtain ⟨chunks, last, whole⟩ := (List.eq_nil_or_concat b.chunks).resolve_left some_
  rw [whole, List.concat_eq_append, linesOf_concat, List.dropLast_concat]
  simp [terminated, -List.append_assoc]

theorem text_of_some {heading : Heading o} (ended : b.heading = some heading) :
    b.text = terminated (linesOf b.chunks) ++ heading.text := by
  simp only [text, ended, terminated_linesOf]

theorem exists_terminated_lines : ∃ last, terminated b.lines = b.text ++ last := by
  cases ended : b.heading with
  | none => exact ⟨[], by rw [text_of_none b ended, List.append_nil]⟩
  | some heading => exact ⟨['\n'], by simp [text_of_some b ended, lines, ended, terminated]⟩

theorem head_text : ∀ c ∈ b.text.head?, isBlank c = false := by
  obtain ⟨last, same⟩ := b.exists_terminated_lines
  cases whole : b.text with
  | nil => exact nofun
  | cons c more =>
    rintro _ ⟨⟩
    rw [whole] at same
    have some_ : b.lines ≠ [] := by
      rintro none_
      rw [none_] at same
      cases same
    obtain ⟨d, line, others, first, start⟩ := b.exists_first some_
    rw [first] at same
    obtain rfl : d = c := (List.cons.inj same).1
    exact start.visible

theorem lines_text : Body.lines b.text = b.lines.map (· ++ ['\n']) := by
  cases ended : b.heading with
  | none =>
    have whole : b.lines = (linesOf b.chunks).dropLast := by simp only [lines, ended]
    have clean : ∀ line ∈ b.lines, IsClean line := fun line member =>
      b.clean_linesOf line (List.dropLast_subset _ (whole ▸ member))
    rw [text_of_none b ended, ← List.append_nil (terminated b.lines), lines_terminated clean (show IsClean [] by decide)]
    simp
  | some heading =>
    obtain ⟨more, first⟩ := heading.exists_first
    have some_ : heading.text.isEmpty = false := by rw [first]; rfl
    rw [text_of_some b ended, lines_terminated b.clean_linesOf heading.clean_text, some_]
    simp [lines, ended]

end Normal

end Lines

section Whole

theorem Normal.readBlocks_text (b : Normal o) : readBlocks o b.text = readLines o {} b.lines := by
  have mark : ∀ line ∈ (b.lines.map (· ++ ['\n'])).head?, line.head? ≠ some '\ufeff' := by
    rintro first member
    obtain none_ | some_ := eq_or_ne b.lines []
    · rw [none_] at member
      cases member
    · obtain ⟨c, line, others, whole, start⟩ := b.exists_first some_
      rw [whole] at member
      obtain rfl : c :: line ++ ['\n'] = first := Option.some.inj member
      exact fun same => start.ne_mark (Option.some.inj same)
  rw [readBlocks_eq o b.lines_text mark, List.foldl_map]
  rfl

/-- The document of a body in normal form has the text of its blocks. -/
theorem Normal.spell_read (b : Normal o) : (spell (read o (String.ofList b.text))).toList =
    b.chunks.flatMap Chunk.text ++ (b.heading.map Heading.text).getD [] := by
  obtain ⟨drafts, finished, told⟩ := b.finishes
  obtain ⟨trees, filled, spelled, calm⟩ := told (referenceQuota b.text)
  have whole : fill ⟨o, []⟩ (referenceQuota b.text) (.node ⟨.document, []⟩ drafts) =
      (.node .document trees, referenceQuota b.text) := by
    simp [fill, holdsText, filled]
  have calmWhole : (RoseTree.node Value.document trees).Calm o := ⟨trivial, calm⟩
  rw [read]
  simp only [String.toList_ofList, b.readBlocks_text, finished, whole, moveFootnotes_eq calmWhole, ite_self]
  rw [spell_tidy calmWhole, spell, spelled]

theorem Heading.last_text (h : Heading o) : h.text.getLast? ≠ some '\n' := by
  obtain ⟨c, more, first, -⟩ := h.fits.first_visible
  have last : h.text.getLast? = (lineChars h.line).getLast? := by
    rw [text, List.getLast?_append_of_ne_nil _ (by simp), List.getLast?_cons_of_ne_nil (by simp [first])]
  rw [last]
  rintro newline
  exact absurd (h.fits.last_visible _ newline) (by decide)

/-- A body in normal form is a fixed point of reading and writing. -/
theorem render_read_normal (b : Normal o) : render (read o (String.ofList b.text)) = String.ofList b.text := by
  have spelled := b.spell_read
  rw [Markup.render_eq, RoseTree.out_eq_spell]
  cases ended : b.heading with
  | none =>
    rw [ended, Option.map_none, Option.getD_none, List.append_nil] at spelled
    obtain none_ | some_ := eq_or_ne b.chunks []
    · have empty : b.text = [] := by simp [Normal.text, ended, none_]
      have silent : spell (read o (String.ofList b.text)) = "" := by
        rw [← String.toList_inj, spelled, none_]
        rfl
      rw [silent, empty]
      rfl
    · have whole : spell (read o (String.ofList b.text)) = String.ofList b.text ++ "\n" := by
        rw [← String.toList_inj, spelled, b.chunks_text_of_none ended some_]
        simp
      rw [whole, Markup.dropLineBreak_append]
  | some heading =>
    have whole : spell (read o (String.ofList b.text)) = String.ofList b.text := by
      rw [← String.toList_inj, spelled, ended, String.toList_ofList, b.text_of_some ended, terminated_linesOf]
      rfl
    rw [whole, Markup.dropLineBreak, String.toList_ofList, if_neg]
    obtain ⟨more, first⟩ := heading.exists_first
    rw [b.text_of_some ended, List.getLast?_append_of_ne_nil _ (by simp [first])]
    exact heading.last_text

end Whole

end Frontmark.Body
