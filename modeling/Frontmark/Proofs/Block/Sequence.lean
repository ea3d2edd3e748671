import Frontmark.Proofs.Block.Reading

/-! What a reader that rests makes of the first line of a block. -/

set_option autoImplicit false

namespace Frontmark.Block

open Frontmark.Body (Tells)
open Frontmark.Inline (IsLine lineChars)
open Frontmark.Markup (ListStyle)
open Frontmark.Text

variable {o : Options} {r : Reader} {s : Scene} {cursor : Cursor} {before : List Char} {parts : List Inline.Part}

/-- A line in the course of being placed after the last block, all that it does not continue being still open. -/
inductive Ready (o : Options) (cursor : Cursor) : Scene → (before : List Char) → Prop where
  | document {children : List Draft} {before : List Char} : Tells o children.reverse before →
      Ready o cursor ⟨⟨[documentFrame children], []⟩, [], cursor, false⟩ before
  | thematicBreak {children : List Draft} {before : List Char} : Tells o children.reverse before →
      Ready o cursor ⟨⟨[{ block := .thematicBreak }, documentFrame children], []⟩, [], cursor, false⟩
        (before ++ "---\n\n".toList)
  | item {children items : List Draft} {content : Draft} {before listed last : List Char} {marker : Marker} {width : Nat}
      (first : Marker) : Tells o children.reverse before → Tells o items.reverse listed → Tells o [content] last →
      Ready o cursor ⟨⟨[{ block := .list first, children := items }, documentFrame children], []⟩,
        [{ block := .item marker width, children := [content] }], cursor, false⟩
        (before ++ (listed ++ (marker.style.marker.toList ++ last)))

/-- A line that is not indented goes on with no item. -/
theorem Rests.ready (rests : Rests o r before) (line : List Char) (visible : ∀ c ∈ line.head?, isSpace c = false) :
    ∃ s, Ready o { rest := line } s before ∧ r.readLine o { rest := line } line =
      (s.startAll o (line.length + 1) false 1).addText := by
  have flush : ∀ c ∈ line.head?, isSpaceOrTab c = false := by
    rintro c first
    have gap := visible c first
    simp_all [isSpace, isSpaceOrTab]
  have indent : Cursor.indent { rest := line } = 0 := Cursor.indent_eq flush
  have filled : Cursor.blank { rest := line } = false := by
    rw [Cursor.blank, Cursor.text_eq flush]
    refine decide_eq_false fun same => ?_
    exact absurd (visible _ same) (by decide)
  cases rests with
  | @document children _ told =>
    have matched : matchFrames line [] [documentFrame children] { rest := line } =
      ⟨[documentFrame children], [], { rest := line }, false⟩ := rfl
    exact ⟨_, .document told, Reader.readLine_eq matched⟩
  | @thematicBreak children _ told =>
    have matched : matchFrames line [] [documentFrame children, { block := .thematicBreak }] { rest := line } =
      ⟨[{ block := .thematicBreak }, documentFrame children], [], { rest := line }, false⟩ := rfl
    exact ⟨_, .thematicBreak told, Reader.readLine_eq matched⟩
  | @item children items content _ _ _ marker width first wide told listed last =>
    have matched : matchFrames line []
        [documentFrame children, { block := .list first, children := items },
          { block := .item marker width, children := [content] }] { rest := line } =
        ⟨[{ block := .list first, children := items }, documentFrame children],
          [{ block := .item marker width, children := [content] }], { rest := line }, false⟩ := by
      simp [matchFrames, Frame.verdict, documentFrame, indent, filled, wide.ne']
    exact ⟨_, .item first told listed last, Reader.readLine_eq matched⟩

/-- Whatever the block is, it goes into the document. -/
theorem Ready.push (ready : Ready o cursor s before) :
    ∃ children, Tells o children.reverse before ∧ ∀ block cursor, Block.document.canHold block = true →
      s.push block cursor = ⟨⟨[{ block }, documentFrame children], []⟩, [], cursor, true⟩ := by
  cases ready with
  | @document children _ told =>
    refine ⟨children, told, fun block cursor fits => ?_⟩
    simp [Scene.push, Scene.settle, Scene.makeRoom, Reader.closeMany, documentFrame, fits]
  | @thematicBreak children _ told =>
    refine ⟨.node ⟨.thematicBreak, []⟩ [] :: children, told.push (.leaf (v := .thematicBreak) rfl trivial),
      fun block cursor fits => ?_⟩
    have other : Block.thematicBreak.canHold block = false := by cases block <;> rfl
    simp [Scene.push, Scene.settle, Scene.makeRoom, Reader.closeMany, Reader.closeInner, documentFrame, fits, other, Frame.close]
  | @item children items content _ _ _ marker width first told listed last =>
    refine ⟨_, told.push (.list first.style (listed.push (.item marker.style last))), fun block cursor fits => ?_⟩
    have other : (Block.list first).canHold block = false := by
      cases block with
      | item => cases fits
      | _ => rfl
    simp [Scene.push, Scene.settle, Scene.makeRoom, Reader.closeMany, Reader.closeInner, documentFrame, fits, other, Frame.close]

theorem Ready.pushFirstItem (ready : Ready o cursor s before) {width : Nat} (wide : 0 < width) (marker : Marker)
    (after : Cursor) : ∃ outer, Holds o outer (before ++ marker.style.marker.toList) ∧
      (s.push (.list marker) after).push (.item marker width) after = ⟨⟨outer, []⟩, [], after, true⟩ := by
  obtain ⟨children, told, pushed⟩ := ready.push
  have none_ : Tells o ([] : List Draft).reverse [] := .nil
  have held := Holds.item marker marker wide told none_
  rw [List.nil_append] at held
  refine ⟨_, held, ?_⟩
  rw [pushed _ _ rfl]
  simp [Scene.push, Scene.settle, Scene.makeRoom, Reader.closeMany, Block.canHold]

/-- An item goes into the list before it, if there is one of its kind, or else into a new list. -/
theorem Ready.pushItem (ready : Ready o cursor s before) {width : Nat} (wide : 0 < width) (marker : Marker) (after : Cursor) :
    ∃ outer, Holds o outer (before ++ marker.style.marker.toList) ∧
      s.pushItem marker width after = ⟨⟨outer, []⟩, [], after, true⟩ := by
  have fresh := ready.pushFirstItem wide marker after
  cases ready with
  | document | thematicBreak => exact fresh
  | @item children items content _ _ _ other _ first told listed last =>
    cases continues : marker.continues first with
    | false => simpa [Scene.pushItem, Scene.innerBlock, Scene.inner?, continues] using fresh
    | true =>
      have held := Holds.item marker first wide told (listed.push (.item other.style last))
      refine ⟨_, by simpa using held, ?_⟩
      simp [Scene.pushItem, Scene.innerBlock, Scene.inner?, continues, Scene.push, Scene.settle, Scene.makeRoom,
        Reader.closeMany, Reader.closeInner, Block.canHold, Frame.close]

/-- What a reader that rests is at does not take text, nor does it change how a line begins. -/
theorem Ready.between (ready : Ready o cursor s before) :
    s.innerBlock ≠ .paragraph ∧ s.innerBlock.isVerbatim = false ∧ ∀ columns added, s.innerBlock ≠ .table columns added := by
  cases ready with
  | document | thematicBreak | item => exact ⟨nofun, rfl, nofun⟩

theorem Ready.cursor_eq (ready : Ready o cursor s before) : s.cursor = cursor := by
  cases ready <;> rfl

theorem Ready.addText (ready : Ready o ⟨textLine parts, 0, false⟩ s before) (isLine : IsLine o parts) :
    ∃ outer, Holds o outer before ∧ s.addText = ⟨paragraphFrame [parts] :: outer, []⟩ := by
  have added : ({ block := .paragraph } : Frame).addLine (textLine parts) = paragraphFrame [parts] :=
    addLine_textLine _
  obtain ⟨children, told, pushed⟩ := ready.push
  have settled : s.addText =
      ((s.push .paragraph ⟨textLine parts, 0, false⟩).mapInner (·.addLine (textLine parts))).reader := by
    cases ready <;>
      simp [Scene.addText, blank_textLine isLine, remainder_textLine isLine, Scene.settle, Scene.innerBlock, Scene.inner?,
        documentFrame, Scene.push, Reader.closeMany, Reader.closeInner, Frame.close]
  refine ⟨_, .document told, ?_⟩
  rw [settled, pushed _ _ rfl]
  simp [Scene.mapInner, added]

/-- A line of text begins a paragraph. -/
theorem Rests.readLine_paragraph (rests : Rests o r before) (isLine : IsLine o parts) :
    ∃ outer, Holds o outer before ∧
      r.readLine o { rest := textLine parts } (textLine parts) = ⟨paragraphFrame [parts] :: outer, []⟩ := by
  have visible : ∀ c ∈ (textLine parts).head?, isSpace c = false := by
    obtain ⟨c, more, first, visible⟩ := isLine.first_visible
    rw [textLine, first]
    rintro _ ⟨⟩
    exact visible
  obtain ⟨s, ready, read_⟩ := rests.ready _ visible
  rw [read_, Scene.startAll_eq (plain_line isLine) ready.cursor_eq ready.between.2.2]
  exact ready.addText isLine

section Starts

theorem Holds.inner_ne {outer : List Frame} (holds : Holds o outer before) (columns added : Nat) :
    (⟨outer, []⟩ : Reader).inner ≠ .table columns added := by
  cases holds with
  | document | blockQuote | item => exact nofun

/-- One marker that opens a block, and then nothing that opens another one. -/
theorem Scene.startAll_once {s after : Scene} {line : List Char} {column limit depth : Nat} (plain : Plain line)
    (verbatim : s.innerBlock.isVerbatim = false) (start : s.start? o false depth = some after)
    (cursor : after.cursor = ⟨line, column, false⟩) (open_ : ∀ columns added, after.innerBlock ≠ .table columns added) :
    s.startAll o (limit + 1) false depth = after := by
  rw [startAll, verbatim, start]
  simp [startAll_eq plain cursor open_]

theorem Rests.readLine_blockQuote (rests : Rests o r before) (isLine : IsLine o parts) :
    ∃ outer, Holds o outer (before ++ "> ".toList) ∧
      r.readLine o { rest := '>' :: ' ' :: textLine parts } ('>' :: ' ' :: textLine parts) =
        ⟨paragraphFrame [parts] :: outer, []⟩ := by
  obtain ⟨s, ready, read_⟩ := rests.ready ('>' :: ' ' :: textLine parts) (by rintro _ ⟨⟩; decide)
  obtain ⟨children, told, pushed⟩ := ready.push
  have indent : Cursor.indent { rest := '>' :: ' ' :: textLine parts } = 0 := rfl
  have text : Cursor.text { rest := '>' :: ' ' :: textLine parts } = '>' :: ' ' :: textLine parts := rfl
  have taken : ((Cursor.skipIndent { rest := '>' :: ' ' :: textLine parts }).takeChars 1).takeSpace =
    ⟨textLine parts, 2, false⟩ := rfl
  have start : s.start? o false 1 = some (s.push .blockQuote ⟨textLine parts, 2, false⟩) := by
    simp [Scene.start?, ready.cursor_eq, indent, text, codeIndent, taken]
  have held := Holds.blockQuote told
  refine ⟨_, held, ?_⟩
  rw [read_, Scene.startAll_once (plain_line isLine) ready.between.2.1 start]
  · rw [pushed _ _ rfl]
    exact held.addText isLine true
  · rw [pushed _ _ rfl]
  · rw [pushed _ _ rfl]
    exact held.inner_ne

theorem Cursor.takeSpaces_eq {line : List Char} {column : Nat} (visible : ∀ c ∈ line.head?, isSpaceOrTab c = false)
    (limit : Nat) : Cursor.takeSpaces limit ⟨line, column, false⟩ = ⟨line, column, false⟩ := by
  have still : Cursor.atSpace ⟨line, column, false⟩ = false := by
    cases line with
    | nil => rfl
    | cons c line => simpa [atSpace] using visible c rfl
  cases limit <;> simp [takeSpaces, still]

theorem Cursor.takeChars_append {text : List Char} (narrow : ∀ c ∈ text, c ≠ '\t' ∧ c.utf8Size = 1) (rest : List Char)
    (column : Nat) :
    Cursor.takeChars text.length ⟨text ++ rest, column, false⟩ = ⟨rest, column + text.length, false⟩ := by
  induction text generalizing column with
  | nil => rfl
  | cons c text ih =>
    obtain ⟨⟨tab, size⟩, others⟩ := List.forall_mem_cons.mp narrow
    have step : Cursor.takeChars (c :: text).length ⟨c :: text ++ rest, column, false⟩ =
        Cursor.takeChars text.length ⟨text ++ rest, column + 1, false⟩ := by
      rw [List.length_cons, takeChars]
      split
      · contradiction
      · rename_i same
        exact absurd (List.cons.inj same).1 tab
      · rename_i same
        obtain ⟨rfl, rfl⟩ := List.cons.inj same
        rw [size]
        rfl
    rw [step, ih others, List.length_cons, Nat.add_assoc, Nat.add_comm 1]

section Items

variable {inner : Block} {sign : List Char} {marker : Marker}

/-- The content of an item starts after the one space behind its marker. -/
theorem itemStart_eq (other : inner ≠ .paragraph) (isLine : IsLine o parts) (narrow : ∀ c ∈ sign, c ≠ '\t' ∧ c.utf8Size = 1)
    (visible : ∀ c ∈ (sign ++ ' ' :: textLine parts).head?, isSpaceOrTab c = false)
    (found : marker? false (sign ++ ' ' :: textLine parts) = some (marker, sign.length)) :
    Scene.itemStart inner { rest := sign ++ ' ' :: textLine parts } =
      some (marker, sign.length + 1, ⟨textLine parts, sign.length + 1, false⟩) := by
  have flush := (plain_line isLine).visible
  have filled : (textLine parts).head? ≠ some '\n' := by
    have blank : Cursor.blank ⟨textLine parts, 0, false⟩ = false := blank_textLine isLine
    rw [Cursor.blank, Cursor.text_eq flush] at blank
    exact of_decide_eq_false blank
  have after : (Cursor.skipIndent { rest := sign ++ ' ' :: textLine parts }).takeChars sign.length =
      ⟨' ' :: textLine parts, sign.length, false⟩ := by
    rw [Cursor.skipIndent_eq visible, Cursor.takeChars_append narrow, Nat.zero_add]
  have spaced : Cursor.takeSpaces 6 ⟨' ' :: textLine parts, sign.length, false⟩ = ⟨textLine parts, sign.length + 1, false⟩ :=
    Cursor.takeSpaces_eq flush 5
  have gap : 1 ≤ sign.length + 1 - sign.length ∧ sign.length + 1 - sign.length ≤ 4 := by omega
  simp only [Scene.itemStart, other, decide_false, Cursor.text_eq visible, Cursor.indent_eq visible, found, after, spaced,
    Option.map_some, gap]
  simp [filled]

/-- The markers that are written, and what is read of them. -/
theorem exists_sign (style : ListStyle) (rest : List Char) :
    ∃ c sign marker, style.marker.toList ++ rest = c :: sign ++ ' ' :: rest ∧ c ∈ ['*', '1'] ∧
      (∀ d ∈ c :: sign, d ≠ '\t' ∧ d.utf8Size = 1) ∧ marker.style.marker = style.marker ∧
      marker? false (c :: sign ++ ' ' :: rest) = some (marker, (c :: sign).length) := by
  obtain ⟨ordered, delimiter, start, tight⟩ := style
  cases ordered with
  | false =>
    refine ⟨'*', [], ⟨some '*', .period, 1⟩, by simp [ListStyle.marker], .head _, ?_, rfl, rfl⟩
    decide
  | true =>
    cases delimiter with
    | period =>
      refine ⟨'1', ['.'], ⟨none, .period, 1⟩, by simp [ListStyle.marker], .tail _ (.head _), ?_, rfl, rfl⟩
      decide
    | paren =>
      refine ⟨'1', [')'], ⟨none, .paren, 1⟩, by simp [ListStyle.marker], .tail _ (.head _), ?_, rfl, rfl⟩
      decide

theorem Scene.start?_item {line : List Char} {width : Nat} {after : Cursor} (cursor : s.cursor = { rest := line })
    (visible : ∀ c ∈ line.head?, isSpaceOrTab c = false) (quote : line.head? ≠ some '>') (heading : heading? line = none)
    (fence : fence? line = none) (html : html? false line = none) (rule : isThematicBreak line = false)
    (footnote : footnote? line = none) (other : s.innerBlock ≠ .paragraph)
    (item : itemStart s.innerBlock { rest := line } = some (marker, width, after)) :
    s.start? o false 1 = some (s.pushItem marker width after) := by
  simp [start?, cursor, Cursor.text_eq visible, Cursor.indent_eq visible, codeIndent, quote, heading, fence, html, rule,
    footnote, other, item, deepestStarts]

theorem Rests.readLine_item (rests : Rests o r before) (style : ListStyle) (isLine : IsLine o parts) :
    ∃ outer, Holds o outer (before ++ style.marker.toList) ∧
      r.readLine o { rest := style.marker.toList ++ textLine parts } (style.marker.toList ++ textLine parts) =
        ⟨paragraphFrame [parts] :: outer, []⟩ := by
  obtain ⟨c, sign, marker, whole, first, narrow, same, found⟩ := exists_sign style (textLine parts)
  obtain ⟨space, flush, quote, hash, tick, tilde, angle, bracket⟩ :=
    (by decide : ∀ c ∈ ['*', '1'], isSpace c = false ∧ isSpaceOrTab c = false ∧ c ≠ '>' ∧ c ≠ '#' ∧ c ≠ '\x60' ∧ c ≠ '~' ∧
      c ≠ '<' ∧ c ≠ '[') c first
  rw [whole]
  obtain ⟨s, ready, read_⟩ := rests.ready (c :: sign ++ ' ' :: textLine parts) (by rintro _ ⟨⟩; exact space)
  obtain ⟨other, verbatim, -⟩ := ready.between
  obtain ⟨outer, held, pushed⟩ := ready.pushItem (Nat.succ_pos (c :: sign).length) marker
    ⟨textLine parts, (c :: sign).length + 1, false⟩
  have visible : ∀ d ∈ (c :: sign ++ ' ' :: textLine parts).head?, isSpaceOrTab d = false := by
    rintro _ ⟨⟩
    exact flush
  have rule : isThematicBreak (c :: sign ++ ' ' :: textLine parts) = false := by
    obtain ⟨d, member, mark⟩ := exists_mark_line isLine
    exact isThematicBreak_eq_false (by simp [textLine, member]) mark
  have start : s.start? o false 1 = some (s.pushItem marker ((c :: sign).length + 1)
      ⟨textLine parts, (c :: sign).length + 1, false⟩) :=
    Scene.start?_item ready.cursor_eq visible (fun same => quote (Option.some.inj same)) (heading?_eq_none hash)
      (fence?_eq_none tick tilde) (html?_eq_none angle false) rule (footnote?_eq_none fun same => absurd same bracket) other
      (itemStart_eq other isLine narrow visible found)
  refine ⟨outer, same ▸ held, ?_⟩
  rw [read_, Scene.startAll_once (plain_line isLine) verbatim start]
  · rw [pushed]
    exact held.addText isLine true
  · rw [pushed]
  · rw [pushed]
    exact held.inner_ne

end Items

theorem Rests.readLine_thematicBreak (rests : Rests o r before) :
    Rests o (r.readLine o { rest := "---\n".toList } "---\n".toList) (before ++ "---\n\n".toList) := by
  obtain ⟨s, ready, read_⟩ := rests.ready ("---\n".toList) (by rintro _ ⟨⟩; decide)
  obtain ⟨other, verbatim, -⟩ := ready.between
  obtain ⟨children, told, pushed⟩ := ready.push
  have start : s.start? o false 1 = some (s.push .thematicBreak { rest := ['\n'] }) := by
    have indent : Cursor.indent { rest := ['-', '-', '-', '\n'] } = 0 := rfl
    have text : Cursor.text { rest := ['-', '-', '-', '\n'] } = ['-', '-', '-', '\n'] := rfl
    have heading : heading? ['-', '-', '-', '\n'] = none := by decide
    have fence : fence? ['-', '-', '-', '\n'] = none := by decide
    have html : html? false ['-', '-', '-', '\n'] = none := by decide
    have rule : isThematicBreak ['-', '-', '-', '\n'] = true := by decide
    simp [Scene.start?, ready.cursor_eq, indent, text, codeIndent, heading, fence, html, other, rule, Cursor.lineEnd]
  rw [read_, Scene.startAll_once Plain.newline verbatim start]
  · rw [pushed _ _ rfl]
    exact .thematicBreak told
  · rw [pushed _ _ rfl]
  · rw [pushed _ _ rfl]
    rintro columns added ⟨⟩

end Starts

section Code

def isInfoChar (c : Char) : Bool :=
  Inline.isCodeChar c && c ≠ '&' && c ≠ '\\'

/-- An info string that stands for itself. -/
structure IsInfo (info : List Char) : Prop where
  chars : ∀ c ∈ info, isInfoChar c = true
  first : ∀ c ∈ info.head?, isSpace c = false
  last : ∀ c ∈ info.getLast?, isSpace c = false

instance (info : List Char) : Decidable (IsInfo info) :=
  decidable_of_iff
    ((∀ c ∈ info, isInfoChar c = true) ∧ (∀ c ∈ info.head?, isSpace c = false) ∧ ∀ c ∈ info.getLast?, isSpace c = false)
    ⟨fun ⟨chars, first, last⟩ => ⟨chars, first, last⟩, fun isInfo => ⟨isInfo.chars, isInfo.first, isInfo.last⟩⟩

variable {info line : List Char} {code : List (List Char)} {children : List Draft}

def codeFrame (info : List Char) (code : List (List Char)) : Frame :=
  { block := .fencedCode '\x60' 3 0, lines := (((' ' :: info) :: code).map (· ++ ['\n'])).reverse }

theorem IsInfo.notMem (isInfo : IsInfo info) {c : Char} (other : isInfoChar c = false) : c ∉ info := by
  rintro member
  rw [isInfo.chars c member] at other
  cases other

theorem infoText_eq (isInfo : IsInfo info) : infoText (' ' :: info) = info := by
  have ampersand : '&' ∉ ' ' :: info := by simp [isInfo.notMem (c := '&') (by decide)]
  have stripped : strip (' ' :: info) = info := by
    rw [strip, dropSpaces, List.dropWhile_cons_of_pos (by decide), ← dropSpaces, dropSpaces_of_first isInfo.first,
      dropSpacesEnd_of_last isInfo.last]
  rw [infoText, decodeEntities_of_notMem ampersand, stripped, dropEscapes_of_notMem (isInfo.notMem (by decide))]

theorem content_codeFrame : (codeFrame info code).content = ' ' :: (info ++ '\n' :: terminated code) := by
  simp [codeFrame, Frame.content, terminated, List.flatMap_def]

theorem close_codeFrame (isInfo : IsInfo info) :
    (codeFrame info code).close [] =
      ([], some (.node ⟨.codeBlock (String.ofList info) (String.ofList (terminated code)) true, []⟩ [])) := by
  have single : ∀ c ∈ ' ' :: info, (!decide (c = '\n')) = true := by
    rintro c member
    have newline : '\n' ∉ ' ' :: info := by simp [isInfo.notMem (c := '\n') (by decide)]
    simpa using fun same : c = '\n' => newline (same ▸ member)
  have whole : (codeFrame info code).content = (' ' :: info) ++ '\n' :: terminated code := content_codeFrame
  have first : (codeFrame info code).content.takeWhile (fun c => !decide (c = '\n')) = ' ' :: info := by
    rw [whole, List.takeWhile_append_of_pos single]
    simp
  have rest : (codeFrame info code).content.dropWhile (fun c => !decide (c = '\n')) = '\n' :: terminated code := by
    rw [whole, List.dropWhile_append_of_pos single]
    simp
  have block : (codeFrame info code).block = .fencedCode '\x60' 3 0 := rfl
  have children : (codeFrame info code).children = [] := rfl
  simp [Frame.close, block, children, first, rest, infoText_eq isInfo]

/-- A fence begins a block of code, whose text is not looked into. -/
theorem Rests.readLine_fence (rests : Rests o r before) (isInfo : IsInfo info) :
    ∃ children, Tells o children.reverse before ∧
      r.readLine o { rest := "\x60\x60\x60 ".toList ++ info ++ ['\n'] } ("\x60\x60\x60 ".toList ++ info ++ ['\n']) =
        ⟨[codeFrame info [], documentFrame children], []⟩ := by
  obtain ⟨s, ready, read_⟩ := rests.ready ("\x60\x60\x60 ".toList ++ info ++ ['\n']) (by rintro _ ⟨⟩; decide)
  obtain ⟨other, verbatim, -⟩ := ready.between
  obtain ⟨children, told, pushed⟩ := ready.push
  refine ⟨children, told, ?_⟩
  have start : s.start? o false 1 = some (s.push (.fencedCode '\x60' 3 0) ⟨' ' :: (info ++ ['\n']), 3, false⟩) := by
    have indent : Cursor.indent { rest := '\x60' :: '\x60' :: '\x60' :: ' ' :: (info ++ ['\n']) } = 0 := rfl
    have text : Cursor.text { rest := '\x60' :: '\x60' :: '\x60' :: ' ' :: (info ++ ['\n']) } =
      '\x60' :: '\x60' :: '\x60' :: ' ' :: (info ++ ['\n']) := rfl
    have heading : heading? ('\x60' :: '\x60' :: '\x60' :: ' ' :: (info ++ ['\n'])) = none :=
      heading?_eq_none (by decide)
    have fence : fence? ('\x60' :: '\x60' :: '\x60' :: ' ' :: (info ++ ['\n'])) = some ('\x60', 3) := by
      simp [fence?, isInfo.notMem (c := '\x60') (by decide)]
    have taken : (Cursor.skipIndent { rest := '\x60' :: '\x60' :: '\x60' :: ' ' :: (info ++ ['\n']) }).takeChars 3 =
      ⟨' ' :: (info ++ ['\n']), 3, false⟩ := rfl
    simp [Scene.start?, ready.cursor_eq, indent, text, codeIndent, heading, fence, taken]
  rw [read_, Scene.startAll, verbatim, start]
  rw [pushed _ _ rfl]
  simp [Scene.innerBlock, Scene.inner?, Block.acceptsLines, Scene.addText, Scene.settle, Reader.closeMany, Scene.mapInner,
    Cursor.remainder, Frame.addLine, codeFrame]

theorem measureIndent_subset (column : Nat) (line : List Char) : (measureIndent column line).2 ⊆ line := by
  fun_induction measureIndent column line with
  | case1 column text width rest measured ih | case2 column text width rest measured ih =>
    rw [measured] at ih
    exact List.subset_cons_of_subset _ ih
  | case3 => exact List.Subset.refl _

theorem closesFence_eq_false (clear : '\x60' ∉ line) : closesFence '\x60' 3 line = false := by
  have none_ : line.takeWhile (· = '\x60') = [] := by
    cases line with
    | nil => rfl
    | cons c line => exact List.takeWhile_cons_of_neg (by simpa using (List.ne_of_not_mem_cons clear).symm)
  simp [closesFence, none_]

theorem readLine_codeFrame (chars : ∀ c ∈ line, Inline.isCodeChar c = true) :
    (⟨[codeFrame info code, documentFrame children], []⟩ : Reader).readLine o { rest := line ++ ['\n'] } (line ++ ['\n']) =
      ⟨[codeFrame info (code ++ [line]), documentFrame children], []⟩ := by
  have block : (codeFrame info code).block = .fencedCode '\x60' 3 0 := rfl
  have matched : matchFrames (line ++ ['\n']) [] [documentFrame children, codeFrame info code] { rest := line ++ ['\n'] } =
      ⟨[codeFrame info code, documentFrame children], [], { rest := line ++ ['\n'] }, false⟩ := by
    have clear : '\x60' ∉ line ++ ['\n'] := by
      have other : '\x60' ∉ line := fun member => absurd (chars _ member) (by simp [Inline.isCodeChar])
      simp [other]
    have goes := closesFence_eq_false fun member => clear (measureIndent_subset 0 _ member)
    simp [matchFrames, Frame.verdict, documentFrame, block, Cursor.text, goes, Cursor.takeSpaces]
  refine Eq.trans (Reader.readLine_eq matched) ?_
  simp [Scene.startAll, Scene.innerBlock, Scene.inner?, Block.isVerbatim, Scene.addText, Scene.settle,
    Reader.closeMany, Scene.mapInner, Cursor.remainder, Frame.addLine, codeFrame]

theorem rests_fence (told : Tells o children.reverse before) (isInfo : IsInfo info) :
    Rests o ((⟨[codeFrame info code, documentFrame children], []⟩ : Reader).readLine o { rest := "\x60\x60\x60\n".toList }
      "\x60\x60\x60\n".toList)
      (before ++ ("\x60\x60\x60 ".toList ++ info ++ '\n' :: (terminated code ++ "\x60\x60\x60\n\n".toList))) := by
  have read_ : (⟨[codeFrame info code, documentFrame children], []⟩ : Reader).readLine o
      { rest := "\x60\x60\x60\n".toList } "\x60\x60\x60\n".toList =
      (⟨[codeFrame info code, documentFrame children], []⟩ : Reader).closeMany 1 := rfl
  have leaf := Tells.leaf (o := o) (v := .codeBlock (String.ofList info) (String.ofList (terminated code)) true) rfl trivial
  have text : (Markup.RoseTree.spell (.node (.codeBlock (String.ofList info) (String.ofList (terminated code)) true) [])).toList =
      "\x60\x60\x60 ".toList ++ info ++ '\n' :: (terminated code ++ "\x60\x60\x60\n\n".toList) := by
    simp [Markup.RoseTree.spell]
  rw [text] at leaf
  rw [read_]
  simp only [Reader.closeMany, Reader.closeInner, close_codeFrame isInfo]
  exact .document (told.push leaf)

end Code

section Heading

/-- A line has no number signs at its end that could close the heading. -/
theorem headingText_textLine (isLine : IsLine o parts) (closed : (lineChars parts).getLast? ≠ some '#') :
    headingText (textLine parts) = lineChars parts := by
  have trimmed : dropSpacesEnd (textLine parts) = lineChars parts := by
    rw [textLine, dropSpacesEnd, List.reverse_append, List.reverse_singleton, List.singleton_append,
      List.dropWhile_cons_of_pos (by decide), ← dropSpacesEnd, dropSpacesEnd_of_last isLine.last_visible]
  have open_ : (lineChars parts).reverse.dropWhile (· = '#') = (lineChars parts).reverse := by
    cases reversed : (lineChars parts).reverse with
    | nil => rfl
    | cons c start =>
      have other : c ≠ '#' := by
        rintro rfl
        exact closed (by rw [← List.head?_reverse, reversed]; rfl)
      exact List.dropWhile_cons_of_neg (by simpa using other)
  simp [headingText, trimmed, open_]

theorem heading?_eq_some {level : Nat} (low : 1 ≤ level) (high : level ≤ 6) (isLine : IsLine o parts) :
    heading? (List.replicate level '#' ++ ' ' :: textLine parts) = some (level, level + 1) := by
  have signs : (List.replicate level '#' ++ ' ' :: textLine parts).takeWhile (· = '#') = List.replicate level '#' := by
    rw [List.takeWhile_append_of_pos (by simp)]
    simp
  have single : (textLine parts).takeWhile isSpaceOrTab = [] := by
    have visible := (plain_line isLine).visible
    cases whole : textLine parts with
    | nil => rfl
    | cons c more =>
      rw [whole] at visible
      exact List.takeWhile_cons_of_neg (by simp [visible c rfl])
  have space : isSpaceOrTab ' ' = true := rfl
  simp [heading?, signs, space, single, Nat.one_le_iff_ne_zero.mp low, Nat.not_lt.mpr high]

theorem head?_headingLine {level : Nat} (low : 1 ≤ level) (text : List Char) :
    (List.replicate level '#' ++ ' ' :: text).head? = some '#' := by
  obtain ⟨count, rfl⟩ := Nat.exists_eq_add_of_le' low
  rfl

theorem Scene.start?_heading {level : Nat} (low : 1 ≤ level) (high : level ≤ 6) (isLine : IsLine o parts)
    (cursor : s.cursor = { rest := List.replicate level '#' ++ ' ' :: textLine parts }) :
    s.start? o false 1 = some (s.push (.heading level false) ⟨textLine parts, level + 1, false⟩) := by
  have first := head?_headingLine low (textLine parts)
  have flush : ∀ c ∈ (List.replicate level '#' ++ ' ' :: textLine parts).head?, isSpaceOrTab c = false := by
    rw [first]
    rintro _ ⟨⟩
    decide
  have taken : (Cursor.skipIndent { rest := List.replicate level '#' ++ ' ' :: textLine parts }).takeChars (level + 1) =
      ⟨textLine parts, level + 1, false⟩ := by
    have narrow : ∀ c ∈ List.replicate level '#' ++ [' '], c ≠ '\t' ∧ c.utf8Size = 1 := by
      rintro c member
      obtain inside | rfl : c ∈ List.replicate level '#' ∨ c = ' ' := by simpa using member
      · obtain rfl := List.eq_of_mem_replicate inside
        decide
      · decide
    have moved := Cursor.takeChars_append narrow (textLine parts) 0
    rw [Cursor.skipIndent_eq flush]
    simpa using moved
  simp [start?, cursor, Cursor.indent_eq flush, Cursor.text_eq flush, codeIndent, first, heading?_eq_some low high isLine, taken]

/-- A heading ends with its line. -/
theorem Rests.finishes_heading (rests : Rests o r before) {level : Nat} (low : 1 ≤ level) (high : level ≤ 6)
    (isLine : IsLine o parts) (closed : (lineChars parts).getLast? ≠ some '#') :
    Finishes o (r.readLine o { rest := List.replicate level '#' ++ ' ' :: textLine parts }
      (List.replicate level '#' ++ ' ' :: textLine parts))
      (before ++ (List.replicate level '#' ++ ' ' :: lineChars parts)) := by
  obtain ⟨s, ready, read_⟩ := rests.ready (List.replicate level '#' ++ ' ' :: textLine parts)
    (by rw [head?_headingLine low]; rintro _ ⟨⟩; decide)
  obtain ⟨other, verbatim, -⟩ := ready.between
  obtain ⟨children, told, pushed⟩ := ready.push
  have added : r.readLine o { rest := List.replicate level '#' ++ ' ' :: textLine parts }
      (List.replicate level '#' ++ ' ' :: textLine parts) =
      ⟨[{ block := .heading level false, lines := [lineChars parts] }, documentFrame children], []⟩ := by
    have some_ : (lineChars parts).isEmpty = false := by
      obtain ⟨c, more, whole, -⟩ := isLine.first_visible
      rw [whole]
      rfl
    rw [read_, Scene.startAll, verbatim, Scene.start?_heading low high isLine ready.cursor_eq]
    rw [pushed _ _ rfl]
    simp [Scene.innerBlock, Scene.inner?, Block.acceptsLines, Scene.addText, Scene.settle, Reader.closeMany, Scene.mapInner,
      blank_textLine isLine, remainder_textLine isLine, headingText_textLine isLine closed, Frame.addLine, some_]
  rw [added]
  refine ⟨(.node ⟨.heading level false, lineChars parts⟩ [] :: children).reverse, ?_, told.push (.heading isLine level)⟩
  simp [Body.finish, Reader.closeMany, Reader.closeInner, Frame.close, Frame.content, documentFrame]

end Heading

end Frontmark.Block
