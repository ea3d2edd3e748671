import Frontmark.Block.Cursor
import Frontmark.Block.Frame
import Frontmark.Block.Row
import Frontmark.Options

/-! Reading the block structure of a text, one line after the other.

A line first continues as many open blocks as it can, from the outermost inwards. Then it may open new
blocks inside those. What is left of it is text. A paragraph goes on with a line that continues none of
its outer blocks, as long as the line opens nothing. -/

set_option autoImplicit false

namespace Frontmark.Block

open Frontmark.Markup (Value)
open Frontmark.Link (References)

/-- The open blocks, innermost first; the last one is the document. -/
structure Reader where
  frames : List Frame := [{ block := .document }]
  refs : References := []

namespace Reader

/-- Close the innermost block into its parent. The document stays open. -/
def closeInner (r : Reader) : Reader :=
  match r.frames with
  | inner :: outer :: frames =>
    let (refs, draft) := inner.close r.refs
    ⟨{ outer with children := draft.toList ++ outer.children } :: frames, refs⟩
  | _ => r

def closeMany : Nat → Reader → Reader
  | 0, r => r
  | n + 1, r => closeMany n r.closeInner

end Reader

inductive Verdict where
  | continues (cursor : Cursor)
  | stops
  /-- The line closes the block and is used up by that. -/
  | closes

/-- Whether a line goes on with an open block. `wholeLine` is the line from its first column. -/
def Frame.verdict (f : Frame) (hasInner : Bool) (wholeLine : List Char) (c : Cursor) : Verdict :=
  match f.block with
  | .document | .list _ | .thematicBreak => .continues c
  | .blockQuote =>
    if c.indent < codeIndent && c.text.head? = some '>' then
      .continues ((c.takeColumns (c.indent + 1)).takeSpace)
    else .stops
  | .item _ width =>
    if width ≤ c.indent then .continues (c.takeColumns width)
    else if c.blank && (hasInner || !f.children.isEmpty) then .continues c.skipIndent
    else .stops
  | .footnote _ =>
    if codeIndent ≤ c.indent then .continues (c.takeColumns codeIndent)
    else if wholeLine = ['\n'] then .continues c
    else .stops
  | .indentedCode =>
    if codeIndent ≤ c.indent then .continues (c.takeColumns codeIndent)
    else if c.blank then .continues c.skipIndent
    else .stops
  | .fencedCode mark length indent =>
    if c.indent < codeIndent && closesFence mark length c.text then .closes
    else .continues (c.takeSpaces indent)
  | .html start => if (start = .block || start = .complete) && c.blank then .stops else .continues c
  | .paragraph => if c.blank then .stops else .continues c
  | .heading .. | .tableRow => .stops
  | .table .. => if (row? c.text).isSome then .continues c else .stops

/-- The blocks that a line goes on with, innermost first, and the open ones that it does not. -/
structure Match where
  frames : List Frame
  pending : List Frame
  cursor : Cursor
  closed : Bool

/-- Match the frames from the outermost on; `pending` lists them in this order. -/
def matchFrames (wholeLine : List Char) (frames : List Frame) : (pending : List Frame) → Cursor → Match
  | [], c => ⟨frames, [], c, false⟩
  | f :: pending, c =>
    match f.verdict (!pending.isEmpty) wholeLine c with
    | .continues c => matchFrames wholeLine (f :: frames) pending c
    | .stops => ⟨frames, (f :: pending).reverse, c, false⟩
    | .closes => ⟨frames, (f :: pending).reverse, c, true⟩

/-- A line in the course of being placed. Blocks in `pending` are open but not continued by it. -/
structure Scene where
  reader : Reader
  pending : List Frame
  cursor : Cursor
  opened : Bool := false

namespace Scene

def inner? (s : Scene) : Option Frame :=
  s.reader.frames.head?

def innerBlock (s : Scene) : Block :=
  (s.inner?.map Frame.block).getD .document

def mapInner (s : Scene) (change : Frame → Frame) : Scene :=
  match s.reader.frames with
  | [] => s
  | f :: frames => { s with reader := { s.reader with frames := change f :: frames } }

/-- Close the blocks that the line does not continue. -/
def settle (s : Scene) : Scene :=
  let all : Reader := { s.reader with frames := s.pending ++ s.reader.frames }
  { s with reader := all.closeMany s.pending.length, pending := [] }

/-- Close blocks until the innermost one can hold `block`. -/
def makeRoom (block : Block) : (limit : Nat) → Reader → Reader
  | 0, r => r
  | limit + 1, r =>
    match r.frames with
    | f :: _ => if f.block.canHold block then r else makeRoom block limit r.closeInner
    | [] => r

def push (s : Scene) (block : Block) (cursor : Cursor) : Scene :=
  let settled := s.settle
  let reader := makeRoom block settled.reader.frames.length settled.reader
  ⟨{ reader with frames := { block } :: reader.frames }, [], cursor, true⟩

/-- Make a heading of the paragraph, if anything is left of it besides definitions. -/
def retitle (s : Scene) (level : Nat) : Scene :=
  match s.reader.frames with
  | [] => s
  | f :: frames =>
    let content := f.content
    let (refs, rest) := Link.takeDefinitions s.reader.refs content.length content
    let lines := if rest.isEmpty then [] else [rest]
    if isBlankText rest then
      { s with reader := ⟨{ f with lines } :: frames, refs⟩, opened := true }
    else
      { s with
        reader := ⟨{ f with block := .heading level true, lines } :: frames, refs⟩
        cursor := s.cursor.lineEnd
        opened := true }

/-- An item's content starts after up to four columns of white space; where there are more, or no
content, after one. -/
def itemStart (inner : Block) (c : Cursor) : Option (Marker × Nat × Cursor) :=
  (marker? (inner = .paragraph) c.text).map fun (marker, length) =>
    let after := c.skipIndent.takeChars length
    let spaced := after.takeSpaces 6
    let gap := spaced.column - after.column
    if 1 ≤ gap && gap ≤ 4 && spaced.rest.head? ≠ some '\n' then (marker, c.indent + length + gap, spaced)
    else (marker, c.indent + length + 1, if gap = 0 then after else after.stepColumn)

def pushItem (s : Scene) (marker : Marker) (width : Nat) (cursor : Cursor) : Scene :=
  let inList :=
    match s.innerBlock with
    | .list other => marker.continues other
    | _ => false
  let s := if inList then s else s.push (.list marker) cursor
  s.push (.item marker width) cursor

def cellDraft (source : List Char) : Draft :=
  .node ⟨.extension .tableCell, source⟩ []

def rowDraft (cells : List (List Char)) : Draft :=
  .node ⟨.extension .tableRow, []⟩ (cells.map cellDraft)

/-- Make a table of a paragraph whose last line has as many cells as this delimiter row. Earlier lines
remain a paragraph before it. -/
def headTable (s : Scene) : Option Scene :=
  match s.reader.frames with
  | f :: outer :: frames =>
    if f.noTable || !isDelimiterRow s.cursor.text then none
    else
      match row? s.cursor.text, row? f.content with
      | some delimiters, some head =>
        if delimiters.cells.length ≠ head.cells.length then
          some (s.mapInner ({ · with noTable := true }))
        else
          let above : List Draft :=
            if head.before.isEmpty then []
            else [.node ⟨.paragraph, Text.strip (dropBarEscapes head.before)⟩ []]
          let table : Frame := { block := .table head.cells.length 0, children := [rowDraft head.cells] }
          some { s with
            reader := { s.reader with frames := table :: { outer with children := above ++ outer.children } :: frames }
            cursor := s.cursor.lineEnd
            opened := true }
      | _, _ => some (s.mapInner ({ · with noTable := true }))
  | _ => none

/-- A table to which more cells have been added gets no more rows. -/
def mostAddedCells : Nat := 500000

/-- Add a row to a table; it gets exactly as many cells as the head has. -/
def pushRow (s : Scene) (columns added : Nat) : Option Scene :=
  if s.cursor.blank || mostAddedCells < added then none
  else
    (row? s.cursor.text).map fun row =>
      let missing := columns - row.cells.length
      let cells := row.cells.take columns ++ List.replicate missing []
      let s := s.mapInner fun f => { f with block := .table columns (added + missing) }
      (s.push .tableRow s.cursor.lineEnd).mapInner fun f => { f with children := (cells.map cellDraft).reverse }

def openTable (s : Scene) : Option Scene :=
  match s.innerBlock with
  | .paragraph => s.headTable
  | .table columns added => s.pushRow columns added
  | _ => none

end Scene

def deepestStarts : Nat := 100

/-- Open the block, or the list and item, that starts at the cursor. `depth` counts the blocks that the
line has opened; `afterText` says whether the line could go on with a paragraph. -/
def Scene.start? (o : Options) (afterText : Bool) (depth : Nat) (s : Scene) : Option Scene :=
  let c := s.cursor
  let text := c.text
  let inner := s.innerBlock
  let inParagraph : Bool := inner = .paragraph
  if codeIndent ≤ c.indent then
    if afterText || c.blank then none else some (s.push .indentedCode (c.takeColumns codeIndent))
  else if text.head? = some '>' then
    some (s.push .blockQuote ((c.skipIndent.takeChars 1).takeSpace))
  else
    match heading? text with
    | some (level, length) => some (s.push (.heading level false) (c.skipIndent.takeChars length))
    | none =>
    match fence? text with
    | some (mark, length) =>
      some (s.push (.fencedCode mark length (c.rest.length - text.length)) (c.skipIndent.takeChars length))
    | none =>
    match html? inParagraph text with
    | some start => some (s.push (.html start) c)
    | none =>
    match if inParagraph then underline? text else none with
    | some level => some (s.retitle level)
    | none =>
    if isThematicBreak text then some (s.push .thematicBreak c.lineEnd)
    else
    match if o.footnotes && depth < deepestStarts then footnote? text else none with
    | some (label, length) =>
      some (s.push (.footnote (String.ofList label)) (c.skipIndent.takeChars length))
    | none =>
    match if depth < deepestStarts then Scene.itemStart inner c else none with
    | some (marker, width, cursor) => some (s.pushItem marker width cursor)
    | none => if o.table then s.openTable else none

/-- Open blocks as long as the line has starts of any. Each start uses up at least one character, so
`limit` steps suffice for a line of that length. -/
def Scene.startAll (o : Options) : (limit : Nat) → (afterText : Bool) → (depth : Nat) → Scene → Scene
  | 0, _, _, s => s
  | limit + 1, afterText, depth, s =>
    if s.innerBlock.isVerbatim then s
    else
      match s.start? o afterText depth with
      | none => s
      | some s => if s.innerBlock.acceptsLines then s else startAll o limit false (depth + 1) s

/-- Add what is left of the line as text. -/
def Scene.addText (s : Scene) : Reader :=
  let c := s.cursor
  let lazily := !s.opened && !c.blank && s.pending.head?.any (·.block = .paragraph)
  if lazily then
    let frames := s.pending ++ s.reader.frames
    { s.reader with frames := frames.modify 0 (·.addLine c.remainder) }
  else
    let s := s.settle
    match s.innerBlock with
    | .fencedCode .. | .indentedCode => (s.mapInner (·.addLine c.remainder)).reader
    | .html start =>
      let s := s.mapInner (·.addLine c.remainder)
      if start.endsAt c.text then s.reader.closeInner else s.reader
    | inner =>
      if c.blank then s.reader
      else
        let text := c.skipIndent.remainder
        match inner with
        | .heading .. => (s.mapInner (·.addLine (headingText text))).reader
        | .paragraph => (s.mapInner (·.addLine text)).reader
        | _ => ((s.push .paragraph c).mapInner (·.addLine text)).reader

/-- Read one line, given with its line break. -/
def Reader.readLine (o : Options) (r : Reader) (start : Cursor) (line : List Char) : Reader :=
  let m := matchFrames line [] r.frames.reverse start
  let scene : Scene := ⟨{ r with frames := m.frames }, m.pending, m.cursor, false⟩
  if m.closed then scene.settle.reader
  else
    let afterText := (m.pending ++ m.frames).head?.any (·.block = .paragraph)
    (scene.startAll o (line.length + 1) afterText 1).addText

end Frontmark.Block
