import Frontmark.Proofs.Block.Opening
import Frontmark.Proofs.Body.Drafts

/-! Reading blocks that stand side by side, one line after the other.

Main statements: after a block and an empty line the reader rests, whatever the block is, and what it has read so far
tells the text of the blocks. -/

set_option autoImplicit false

namespace Frontmark.Block

open Frontmark.Body (Tells sourceOf)
open Frontmark.Inline (IsLine lineChars)
open Frontmark.Markup (ListStyle Value)
open Frontmark.Text

variable {o : Options} {line : List Char} {column : Nat}

section Cursors

theorem measureIndent_eq (visible : ∀ c ∈ line.head?, isSpaceOrTab c = false) : measureIndent column line = (0, line) := by
  cases line with
  | nil => rfl
  | cons c line =>
    have other : c ≠ ' ' ∧ c ≠ '\t' := by simpa [isSpaceOrTab] using visible c rfl
    rw [measureIndent]
    · exact fun _ same => other.1 (List.cons.inj same).1
    · exact fun _ same => other.2 (List.cons.inj same).1

section Flush

variable (visible : ∀ c ∈ line.head?, isSpaceOrTab c = false)

include visible

theorem Cursor.indent_eq : Cursor.indent ⟨line, column, false⟩ = 0 := by
  rw [indent, measureIndent_eq visible]

theorem Cursor.text_eq : Cursor.text ⟨line, column, false⟩ = line := by
  rw [text, measureIndent_eq visible]

theorem Cursor.skipIndent_eq : Cursor.skipIndent ⟨line, column, false⟩ = ⟨line, column, false⟩ := by
  rw [skipIndent, text_eq visible, indent_eq visible]
  rfl

end Flush

end Cursors

section Plain

variable {s : Scene}

theorem Scene.openTable_eq_none (plain : Plain line) (cursor : s.cursor = ⟨line, column, false⟩)
    (open_ : ∀ columns added, s.innerBlock ≠ .table columns added) : s.openTable = none := by
  rw [openTable]
  split
  · rw [headTable]
    split
    · simp [cursor, Cursor.text_eq plain.visible, plain.row]
    · rfl
  · rename_i columns added inner
    exact absurd inner (open_ columns added)
  · rfl

theorem Scene.start?_eq_none (plain : Plain line) (cursor : s.cursor = ⟨line, column, false⟩)
    (open_ : ∀ columns added, s.innerBlock ≠ .table columns added) (afterText : Bool) (depth : Nat) :
    s.start? o afterText depth = none := by
  have table := openTable_eq_none plain cursor open_
  simp [start?, cursor, Cursor.text_eq plain.visible, Cursor.indent_eq plain.visible, codeIndent, plain.quote, plain.heading,
    plain.fence, plain.html, plain.underline, plain.rule, plain.footnote, itemStart, plain.marker, table]

theorem Scene.startAll_eq (plain : Plain line) (cursor : s.cursor = ⟨line, column, false⟩)
    (open_ : ∀ columns added, s.innerBlock ≠ .table columns added) (limit : Nat) (afterText : Bool) (depth : Nat) :
    s.startAll o limit afterText depth = s := by
  cases limit with
  | zero => rfl
  | succ limit => simp [startAll, start?_eq_none plain cursor open_]

end Plain

/-- How a line is placed that closes no code. -/
theorem Reader.readLine_eq {r : Reader} {frames pending : List Frame} {c : Cursor}
    (matched : matchFrames line [] r.frames.reverse { rest := line } = ⟨frames, pending, c, false⟩) :
    r.readLine o { rest := line } line =
      ((⟨⟨frames, r.refs⟩, pending, c, false⟩ : Scene).startAll o (line.length + 1)
        ((pending ++ frames).head?.any (·.block = .paragraph)) 1).addText := by
  simp [readLine, matched]

/-- The innermost block. -/
def Reader.inner (r : Reader) : Block :=
  (r.frames.head?.map Frame.block).getD .document

theorem Scene.innerBlock_eq (s : Scene) : s.innerBlock = s.reader.inner :=
  rfl

/-- A line that opens no block is text. -/
theorem Reader.readLine_plain {r : Reader} {frames pending : List Frame} (plain : Plain line)
    (matched : matchFrames line [] r.frames.reverse { rest := line } = ⟨frames, pending, { rest := line }, false⟩)
    (open_ : ∀ columns added, (⟨frames, r.refs⟩ : Reader).inner ≠ .table columns added) :
    r.readLine o { rest := line } line = (⟨⟨frames, r.refs⟩, pending, { rest := line }, false⟩ : Scene).addText := by
  rw [readLine_eq matched, Scene.startAll_eq (s := ⟨⟨frames, r.refs⟩, pending, { rest := line }, false⟩) plain rfl open_]

section Frames

/-- A document with these children, the latest first. -/
def documentFrame (children : List Draft) : Frame :=
  { block := .document, children }

def paragraphFrame (lines : List (List Inline.Part)) : Frame :=
  { block := .paragraph, lines := (lines.map textLine).reverse }

variable {lines : List (List Inline.Part)} {parts : List Inline.Part}

theorem addLine_textLine (f : Frame) : f.addLine (textLine parts) = { f with lines := textLine parts :: f.lines } := by
  simp [Frame.addLine, textLine]

theorem addLine_paragraphFrame :
    (paragraphFrame lines).addLine (textLine parts) = paragraphFrame (lines ++ [parts]) := by
  simp [addLine_textLine, paragraphFrame]

theorem content_paragraphFrame : (paragraphFrame lines).content = sourceOf lines := by
  simp only [paragraphFrame, Frame.content, sourceOf, terminated, List.reverse_reverse, List.flatMap_map]
  rfl

theorem close_paragraphFrame (some_ : lines ≠ []) (all : ∀ line ∈ lines, IsLine o line) :
    (paragraphFrame lines).close [] = ([], some (.node ⟨.paragraph, sourceOf lines⟩ [])) := by
  obtain ⟨parts, lines, rfl⟩ := List.exists_cons_of_ne_nil some_
  have line : IsLine o parts := all parts List.mem_cons_self
  obtain ⟨rest, whole⟩ : ∃ rest, sourceOf (parts :: lines) = lineChars parts ++ rest := ⟨'\n' :: _, terminated_cons _ _⟩
  have taken (limit : Nat) : Link.takeDefinitions [] limit (sourceOf (parts :: lines)) = ([], sourceOf (parts :: lines)) := by
    cases limit with
    | zero => rfl
    | succ limit => rw [Link.takeDefinitions, whole, definition?_line line]
  have blank : isBlankText (sourceOf (parts :: lines)) = false := by
    obtain ⟨c, more, first, visible⟩ := line.first_visible
    simp only [isSpace, Bool.or_eq_false_iff, decide_eq_false_iff_not] at visible
    simp [whole, first, isBlankText, isSpaceOrTab, visible]
  have block : (paragraphFrame (parts :: lines)).block = .paragraph := rfl
  have children : (paragraphFrame (parts :: lines)).children = [] := rfl
  simp [Frame.close, block, children, content_paragraphFrame, taken, blank]

end Frames

section Paragraphs

/-- The blocks around a paragraph; `before` is the text up to the paragraph's first line. -/
inductive Holds (o : Options) : List Frame → (before : List Char) → Prop where
  | document {children : List Draft} {before : List Char} : Tells o children.reverse before →
      Holds o [documentFrame children] before
  | blockQuote {children : List Draft} {before : List Char} : Tells o children.reverse before →
      Holds o [{ block := .blockQuote }, documentFrame children] (before ++ "> ".toList)
  | item {children items : List Draft} {before listed : List Char} {width : Nat} (marker first : Marker) : 0 < width →
      Tells o children.reverse before → Tells o items.reverse listed →
      Holds o [{ block := .item marker width }, { block := .list first, children := items }, documentFrame children]
        (before ++ (listed ++ marker.style.marker.toList))

/-- Between two blocks nothing is open that the next line could go on with, except a list. -/
inductive Rests (o : Options) : Reader → (before : List Char) → Prop where
  | document {children : List Draft} {before : List Char} : Tells o children.reverse before →
      Rests o ⟨[documentFrame children], []⟩ before
  | thematicBreak {children : List Draft} {before : List Char} : Tells o children.reverse before →
      Rests o ⟨[{ block := .thematicBreak }, documentFrame children], []⟩ (before ++ "---\n\n".toList)
  | item {children items : List Draft} {content : Draft} {before listed last : List Char} {marker : Marker}
      {width : Nat} (first : Marker) : 0 < width → Tells o children.reverse before → Tells o items.reverse listed → Tells o [content] last →
      Rests o ⟨[{ block := .item marker width, children := [content] }, { block := .list first, children := items },
        documentFrame children], []⟩ (before ++ (listed ++ (marker.style.marker.toList ++ last)))

variable {outer : List Frame} {before : List Char} {lines : List (List Inline.Part)} {parts : List Inline.Part}

theorem blank_textLine (isLine : IsLine o parts) : Cursor.blank ⟨textLine parts, column, false⟩ = false := by
  obtain ⟨c, more, first, visible⟩ := isLine.first_visible
  rw [Cursor.blank, Cursor.text_eq (plain_line isLine).visible, textLine, first]
  refine decide_eq_false fun same => ?_
  obtain rfl : c = '\n' := Option.some.inj same
  cases visible

theorem remainder_textLine (isLine : IsLine o parts) :
    (Cursor.skipIndent ⟨textLine parts, column, false⟩).remainder = textLine parts := by
  rw [Cursor.skipIndent_eq (plain_line isLine).visible]
  rfl

/-- A paragraph is opened in any of the blocks. -/
theorem Holds.addText (holds : Holds o outer before) (isLine : IsLine o parts) (opened : Bool) :
    (⟨⟨outer, []⟩, [], ⟨textLine parts, column, false⟩, opened⟩ : Scene).addText =
      ⟨paragraphFrame [parts] :: outer, []⟩ := by
  have added : ({ block := .paragraph } : Frame).addLine (textLine parts) = paragraphFrame [parts] :=
    addLine_textLine _
  cases holds <;>
    simp [Scene.addText, blank_textLine isLine, remainder_textLine isLine, Scene.settle, Scene.innerBlock, Scene.inner?,
      documentFrame, Scene.push, Scene.makeRoom, Block.canHold, Reader.closeMany, Scene.mapInner, added]

/-- A line goes on with the paragraph before it, wherever that is. -/
theorem Holds.readLine (holds : Holds o outer before) (isLine : IsLine o parts) :
    (⟨paragraphFrame lines :: outer, []⟩ : Reader).readLine o { rest := textLine parts } (textLine parts) =
      ⟨paragraphFrame (lines ++ [parts]) :: outer, []⟩ := by
  have plain := plain_line isLine
  have filled : Cursor.blank ⟨textLine parts, 0, false⟩ = false := blank_textLine isLine
  have block : (paragraphFrame lines).block = .paragraph := rfl
  have indent : Cursor.indent ⟨textLine parts, 0, false⟩ = 0 := Cursor.indent_eq plain.visible
  have text : Cursor.text ⟨textLine parts, 0, false⟩ = textLine parts := Cursor.text_eq plain.visible
  cases holds with
  | @document children _ told =>
    have matched : matchFrames (textLine parts) [] [documentFrame children, paragraphFrame lines] { rest := textLine parts } =
        ⟨[paragraphFrame lines, documentFrame children], [], { rest := textLine parts }, false⟩ := by
      simp [matchFrames, Frame.verdict, documentFrame, block, filled]
    refine Eq.trans (Reader.readLine_plain plain matched nofun) ?_
    simp [Scene.addText, filled, remainder_textLine isLine, Scene.settle, Scene.innerBlock, Scene.inner?, block,
      Reader.closeMany, Scene.mapInner, addLine_paragraphFrame]
  | @blockQuote children _ told =>
    have matched : matchFrames (textLine parts) [] [documentFrame children, { block := .blockQuote }, paragraphFrame lines]
        { rest := textLine parts } =
        ⟨[documentFrame children], [paragraphFrame lines, { block := .blockQuote }], { rest := textLine parts }, false⟩ := by
      simp [matchFrames, Frame.verdict, documentFrame, indent, text, plain.quote]
    refine Eq.trans (Reader.readLine_plain plain matched nofun) ?_
    simp [Scene.addText, filled, block, Cursor.remainder, addLine_paragraphFrame]
  | @item children items _ _ width marker first wide told listed =>
    have matched : matchFrames (textLine parts) []
        [documentFrame children, { block := .list first, children := items }, { block := .item marker width },
          paragraphFrame lines] { rest := textLine parts } =
        ⟨[{ block := .list first, children := items }, documentFrame children],
          [paragraphFrame lines, { block := .item marker width }], { rest := textLine parts }, false⟩ := by
      simp [matchFrames, Frame.verdict, documentFrame, indent, filled, Nat.not_le.mpr wide]
    refine Eq.trans (Reader.readLine_plain plain matched nofun) ?_
    simp [Scene.addText, filled, block, Cursor.remainder, addLine_paragraphFrame]

/-- What an empty line does to the blocks that it does not continue, it does to nothing else. -/
theorem Scene.addText_newline {s : Scene} (cursor : s.cursor = { rest := ['\n'] })
    (open_ : s.settle.innerBlock.isVerbatim = false) : s.addText = s.settle.reader := by
  have blank : Cursor.blank { rest := ['\n'] } = true := rfl
  rw [addText]
  simp only [cursor, blank, Bool.not_true, Bool.and_false, Bool.false_and, Bool.false_eq_true, if_false, if_true]
  split
  · simp_all [Block.isVerbatim]
  · simp_all [Block.isVerbatim]
  · simp_all [Block.isVerbatim]
  · rfl

end Paragraphs

section Finish

open Frontmark.Body (finish)

/-- All blocks being closed, what has been read tells this text. -/
def Finishes (o : Options) (r : Reader) (text : List Char) : Prop :=
  ∃ drafts, finish r = (.node ⟨.document, []⟩ drafts, []) ∧ Tells o drafts text

theorem finish_closeInner (r : Reader) : finish r.closeInner = finish r := by
  obtain ⟨frames, refs⟩ := r
  match frames with
  | [] | [_] => rfl
  | inner :: outer :: frames => rfl

variable {r : Reader} {before : List Char}

theorem Rests.finishes (rests : Rests o r before) : Finishes o r before := by
  cases rests with
  | document told => exact ⟨_, rfl, told⟩
  | thematicBreak told => exact ⟨_, rfl, told.push (.leaf (v := .thematicBreak) rfl trivial)⟩
  | item _ _ told listed last => exact ⟨_, rfl, told.push (.list _ (listed.push (.item _ last)))⟩

/-- Like `Rests` but for the empty line, which the end of the text stands for as well. -/
structure Settles (o : Options) (r : Reader) (before : List Char) : Prop where
  rests : Rests o (r.readLine o { rest := ['\n'] } ['\n']) before
  finishes : Finishes o r before

/-- How an empty line is read where no block takes it as text. -/
theorem Reader.readLine_newline {frames pending : List Frame}
    (matched : matchFrames ['\n'] [] r.frames.reverse { rest := ['\n'] } = ⟨frames, pending, { rest := ['\n'] }, false⟩)
    (whole : pending ++ frames = r.frames) (open_ : ∀ columns added, (⟨frames, r.refs⟩ : Reader).inner ≠ .table columns added)
    (silent : (r.closeMany pending.length).inner.isVerbatim = false) :
    r.readLine o { rest := ['\n'] } ['\n'] = r.closeMany pending.length := by
  refine Eq.trans (readLine_plain Plain.newline matched open_) ?_
  have settled : (⟨⟨frames, r.refs⟩, pending, { rest := ['\n'] }, false⟩ : Scene).settle.reader = r.closeMany pending.length := by
    simp [Scene.settle, whole]
  rw [Scene.addText_newline rfl, settled]
  rw [Scene.innerBlock_eq, settled]
  exact silent

variable {outer : List Frame} {lines : List (List Inline.Part)}

theorem Rests.newline (rests : Rests o r before) : r.readLine o { rest := ['\n'] } ['\n'] = r := by
  have blank : Cursor.blank { rest := ['\n'] } = true := rfl
  have indent : Cursor.indent { rest := ['\n'] } = 0 := rfl
  have skipped : Cursor.skipIndent { rest := ['\n'] } = { rest := ['\n'] } := rfl
  cases rests with
  | @document children =>
    have matched : matchFrames ['\n'] [] [documentFrame children] { rest := ['\n'] } =
      ⟨[documentFrame children], [], { rest := ['\n'] }, false⟩ := rfl
    exact Eq.trans (Reader.readLine_newline matched rfl nofun rfl) rfl
  | @thematicBreak children =>
    have matched : matchFrames ['\n'] [] [documentFrame children, { block := .thematicBreak }] { rest := ['\n'] } =
      ⟨[{ block := .thematicBreak }, documentFrame children], [], { rest := ['\n'] }, false⟩ := rfl
    exact Eq.trans (Reader.readLine_newline matched rfl nofun rfl) rfl
  | @item children items content _ _ _ marker width first wide =>
    have matched : matchFrames ['\n'] []
        [documentFrame children, { block := .list first, children := items },
          { block := .item marker width, children := [content] }] { rest := ['\n'] } =
        ⟨[{ block := .item marker width, children := [content] }, { block := .list first, children := items },
          documentFrame children], [], { rest := ['\n'] }, false⟩ := by
      simp [matchFrames, Frame.verdict, documentFrame, blank, skipped, indent, wide.ne']
    exact Eq.trans (Reader.readLine_newline matched rfl nofun rfl) rfl

theorem Rests.settles (rests : Rests o r before) : Settles o r before :=
  ⟨rests.newline.symm ▸ rests, rests.finishes⟩

theorem finish_closeMany (count : Nat) (r : Reader) : finish (r.closeMany count) = finish r := by
  induction count generalizing r with
  | zero => rfl
  | succ count ih => rw [Reader.closeMany, ih, finish_closeInner]

/-- Closing what the empty line does not continue changes nothing about the end. -/
theorem Settles.of_closed {after : Reader} {frames pending : List Frame}
    (matched : matchFrames ['\n'] [] r.frames.reverse { rest := ['\n'] } = ⟨frames, pending, { rest := ['\n'] }, false⟩)
    (whole : pending ++ frames = r.frames) (open_ : ∀ columns added, (⟨frames, r.refs⟩ : Reader).inner ≠ .table columns added)
    (closed : r.closeMany pending.length = after) (silent : after.inner.isVerbatim = false) (rests : Rests o after before) :
    Settles o r before := by
  have read_ : r.readLine o { rest := ['\n'] } ['\n'] = after := by
    rw [Reader.readLine_newline matched whole open_ (closed ▸ silent), closed]
  obtain ⟨drafts, finished, told⟩ := rests.finishes
  refine ⟨read_ ▸ rests, drafts, ?_, told⟩
  rw [← finished, ← closed, finish_closeMany]

/-- An empty line ends a paragraph, and a block quote around it. -/
theorem Holds.settles (holds : Holds o outer before) (some_ : lines ≠ []) (all : ∀ line ∈ lines, IsLine o line) :
    Settles o ⟨paragraphFrame lines :: outer, []⟩ (before ++ (joined (lines.map lineChars) ++ "\n\n".toList)) := by
  have told := Tells.paragraph (o := o) some_ all
  have closed := close_paragraphFrame some_ all
  have block : (paragraphFrame lines).block = .paragraph := rfl
  have blank : Cursor.blank { rest := ['\n'] } = true := rfl
  have indent : Cursor.indent { rest := ['\n'] } = 0 := rfl
  have text : Cursor.text { rest := ['\n'] } = ['\n'] := rfl
  have skipped : Cursor.skipIndent { rest := ['\n'] } = { rest := ['\n'] } := rfl
  cases holds with
  | @document children _ told' =>
    have matched : matchFrames ['\n'] [] [documentFrame children, paragraphFrame lines] { rest := ['\n'] } =
        ⟨[documentFrame children], [paragraphFrame lines], { rest := ['\n'] }, false⟩ := by
      simp [matchFrames, Frame.verdict, documentFrame, block, blank]
    refine .of_closed matched rfl nofun ?_ rfl (.document (told'.push told))
    simp [Reader.closeMany, Reader.closeInner, closed, documentFrame]
  | @blockQuote children _ told' =>
    have matched : matchFrames ['\n'] [] [documentFrame children, { block := .blockQuote }, paragraphFrame lines]
        { rest := ['\n'] } =
        ⟨[documentFrame children], [paragraphFrame lines, { block := .blockQuote }], { rest := ['\n'] }, false⟩ := by
      simp [matchFrames, Frame.verdict, documentFrame, indent, text]
    have quoted := told'.push (.blockQuote told)
    rw [List.append_assoc]
    refine .of_closed matched rfl nofun ?_ rfl (.document quoted)
    simp only [Reader.closeMany, Reader.closeInner, List.length_cons, closed]
    rfl
  | @item children items _ _ width marker first wide told' listed =>
    have matched : matchFrames ['\n'] []
        [documentFrame children, { block := .list first, children := items }, { block := .item marker width },
          paragraphFrame lines] { rest := ['\n'] } =
        ⟨[{ block := .item marker width }, { block := .list first, children := items }, documentFrame children],
          [paragraphFrame lines], { rest := ['\n'] }, false⟩ := by
      simp [matchFrames, Frame.verdict, documentFrame, indent, blank, skipped, wide.ne', block]
    rw [List.append_assoc, List.append_assoc]
    refine .of_closed matched rfl nofun ?_ rfl (.item first wide told' listed told)
    simp [Reader.closeMany, Reader.closeInner, closed, documentFrame]

end Finish

end Frontmark.Block
