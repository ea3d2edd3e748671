import Frontmark.Html.Inline
import Frontmark.Inline.Autolink
import Frontmark.Inline.Code
import Frontmark.Inline.Emphasis
import Frontmark.Link.Reference
import Frontmark.Options

/-! Reading the text of one block.

The text is cut into pieces from left to right. A closing bracket makes a link of the pieces since the
last opening one, if a target follows or a definition is known. -/

set_option autoImplicit false

namespace Frontmark.Inline

open Frontmark.Text
open Frontmark.Markup (RoseTree Value)
open Frontmark.Link (Reference References)

/-- What the texts of a document share: its definitions, and how many bytes may still be copied from them. -/
structure Context where
  options : Options
  refs : References

structure State where
  /-- The text that has been read, last character first. -/
  before : List Char := []
  /-- The length of that text. -/
  position : Nat := 0
  rest : List Char
  /-- Where the text after the opening bracket begins that was read last, closed or not. -/
  lastBracket : Nat := 0
  /-- The pieces that have been read, the last one first. -/
  pieces : List Piece := []
  /-- No opening bracket can start a link, because one that is nested in it would be complete. -/
  noLinks : Bool := true
  inBrackets : Bool := false
  quota : Nat
  /-- The constructs of HTML that were found not to end. -/
  endless : List Html.Construct := []
  ticks : TickSearch := {}

namespace State

/-- Read characters without looking at them. -/
def advance : Nat → State → State
  | 0, s => s
  | n + 1, s =>
    match s.rest with
    | [] => s
    | c :: rest => advance n { s with before := c :: s.before, position := s.position + 1, rest }

/-- Read up to `rest`, which has to be an end of the text. -/
def advanceTo (s : State) (rest : List Char) : State :=
  s.advance (s.rest.length - rest.length)

def put (s : State) (piece : Piece) : State :=
  { s with pieces := piece :: s.pieces }

def putTree (s : State) (value : Value) : State :=
  s.put (.tree (.node value []))

def putText (s : State) (text : List Char) : State :=
  s.put (.tree (textTree text))

/-- Read a line break and the white space after it. Two spaces before it make it a hard one. -/
def lineBreak (s : State) : State :=
  let value : Value :=
    match s.before with
    | ' ' :: ' ' :: _ => .lineBreak
    | _ => .softBreak
  let s := (s.advance 1).putTree value
  s.advance (s.rest.takeWhile isSpaceOrTab).length

def backticks (s : State) : State :=
  let ticks := (s.rest.takeWhile (· = '\x60')).length
  let opened := s.advance ticks
  let (closing, search) := s.ticks.closing? ticks opened.position opened.rest
  let opened := { opened with ticks := search }
  match closing with
  | none => opened.putText (List.replicate ticks '\x60')
  | some (code, rest) => (opened.advanceTo rest).putTree (.code (String.ofList (codeLiteral code)) ticks)

def backslash (s : State) : State :=
  match s.rest with
  | _ :: c :: _ =>
    if isMark c then (s.advance 2).putText [c]
    else if c = '\n' then (s.advance 2).putTree .lineBreak
    else (s.advance 1).putText ['\\']
  | _ => (s.advance 1).putText ['\\']

def ampersand (s : State) : State :=
  match entity? s.rest.tail with
  | none => (s.advance 1).putText ['&']
  | some (image, rest) => (s.advanceTo rest).putText image

def angleBracket (s : State) : State :=
  let text := s.rest.tail
  match bracketedLink? text with
  | some (link, rest) => (s.advanceTo rest).put (.tree link)
  | none =>
    match Html.inline s.endless text with
    | .whole rest =>
      (s.advanceTo rest).putTree (.htmlInline (String.ofList (s.rest.take (s.rest.length - rest.length))))
    | .endless c => { s.advance 1 with endless := c :: s.endless }.putText ['<']
    | .nothing => (s.advance 1).putText ['<']

/-- Remove characters from the end of the text read last. -/
def dropText : (limit count : Nat) → List Piece → List Piece
  | 0, _, pieces => pieces
  | limit + 1, count, .tree (.node (.text literal) _) :: pieces =>
    let text := literal.toList
    if count = 0 then .tree (textTree text) :: pieces
    else if count < text.length then .tree (textTree (text.take (text.length - count))) :: pieces
    else dropText limit (count - text.length) pieces
  | _, _, pieces => pieces

def bareLink (s : State) (found : Option Bare) (orElse : Char) : State :=
  match if s.inBrackets then none else found with
  | none => (s.advance 1).putText [orElse]
  | some bare =>
    let s := { s with pieces := dropText (s.pieces.length) bare.back s.pieces }
    (s.advance bare.address.length).put (.tree bare.link)

/-- Read a run of delimiters. A quote is always a run by itself. -/
def delimiters (o : Options) (mark : Char) (s : State) : State :=
  let length := if isQuote mark then 1 else (s.rest.takeWhile (· = mark)).length
  let before := neighbour o.strikethrough s.before
  let after := neighbour o.strikethrough (s.rest.drop length)
  let opens := canOpen mark before after
  let closes := canClose mark before after
  let shown :=
    if isQuote mark && o.smart then
      if mark = '"' && !closes then openingQuote mark else closingQuote mark
    else List.replicate length mark
  let s := s.advance length
  if (opens || closes) && (o.smart || !isQuote mark) then
    s.put (.run ⟨mark, shown, length, opens, closes, s.position⟩)
  else s.putText shown

/-- Dashes for a run of hyphens: em dashes as far as possible, one kind only where that works out. -/
def dashes (hyphens : Nat) : List Char :=
  let (em, en) :=
    if hyphens % 3 = 0 then (hyphens / 3, 0)
    else if hyphens % 2 = 0 then (0, hyphens / 2)
    else if hyphens % 3 = 2 then ((hyphens - 2) / 3, 1)
    else ((hyphens - 4) / 3, 2)
  List.replicate em '\u2014' ++ List.replicate en '\u2013'

def hyphen (o : Options) (s : State) : State :=
  let count := (s.rest.takeWhile (· = '-')).length
  if o.smart && 2 ≤ count then (s.advance count).putText (dashes count) else (s.advance 1).putText ['-']

def period (o : Options) (s : State) : State :=
  if o.smart && "...".toList.isPrefixOf s.rest then (s.advance 3).putText ['\u2026']
  else if o.smart && "..".toList.isPrefixOf s.rest then (s.advance 2).putText ['.', '.']
  else (s.advance 1).putText ['.']

def openBracket (image : Bool) (s : State) : State :=
  let s := s.advance (if image then 2 else 1)
  { s with
    pieces := .bracket ⟨image, s.rest, s.position⟩ :: s.pieces
    lastBracket := s.position
    noLinks := if image then s.noLinks else false
    inBrackets := true }

def exclamation (s : State) : State :=
  match s.rest with
  | '!' :: '[' :: rest => if rest.head? = some '^' then (s.advance 1).putText ['!'] else s.openBracket true
  | _ => (s.advance 1).putText ['!']

/-- The pieces since the last open bracket, in order, the bracket, and the pieces before it. -/
def cutBracket? : (inner pieces : List Piece) → Option (List Piece × Bracket × List Piece)
  | _, [] => none
  | inner, .bracket b :: pieces => some (inner, b, pieces)
  | inner, piece :: pieces => cutBracket? (piece :: inner) pieces

/-- A destination in parentheses, with or without a title, and the text after it. -/
def inlineTarget? : List Char → Option (Reference × List Char)
  | '(' :: text =>
    (Link.destination? (dropGaps text)).bind fun (url, rest) =>
      let spaced := dropGaps rest
      let (title, rest) :=
        if spaced.length = rest.length then ([], rest) else (Link.title? spaced).getD ([], spaced)
      match dropGaps rest with
      | ')' :: rest => some (⟨Link.cleanDestination url, Link.cleanTitle title⟩, rest)
      | _ => none
  | _ => none

/-- The label by which the target of a bracket is known, and the text after it: the one that follows,
or, failing that and if no other bracket has been opened in it, the text in the bracket itself. -/
def targetLabel? (s : State) (b : Bracket) : Option (List Char × List Char) :=
  let own := b.inside.take (s.position - 1 - b.start)
  let holdsBracket := b.start < s.lastBracket
  match Link.label? s.rest with
  | some (label, after) => some (if label.isEmpty && !holdsBracket then own else label, after)
  | none => if holdsBracket then none else some (own, s.rest)

/-- A defined target, as long as the quota lasts. -/
def lookUp (ctx : Context) (s : State) (label : List Char) : Option Reference :=
  (ctx.refs.find? (Link.normalize label)).filter fun r => r.bytes ≤ s.quota

def makeLink (s : State) (b : Bracket) (inner outer : List Piece) (target : Reference) : State :=
  let value : Value := if b.image then .image target.url target.title else .link target.url target.title
  { s with
    pieces := .tree (.node value (pair inner)) :: outer
    noLinks := s.noLinks || !b.image }

/-- The text of a piece, if it is one of those that a footnote's name can be made of. -/
def nameText? : Piece → Option (List Char)
  | .tree (.node (.text literal) _) => some literal.toList
  | .tree (.node (.htmlInline literal) _) => some literal.toList
  | .tree _ => none
  | .run r => some r.shown
  | .bracket b => some b.shown

def isText : Piece → Bool
  | .tree (.node (.text _) _) | .run _ | .bracket _ => true
  | .tree _ => false

/-- A reference to a footnote in place of the texts in a bracket; everything else in it remains. -/
def footnote? (inner : List Piece) : Option (List Piece) :=
  match inner with
  | [] => none
  | first :: _ =>
    let name := (inner.filterMap nameText?).flatten
    if isText first && (((nameText? first).getD []).head? = some '^') && 1 < name.length then
      let others := inner.filter fun piece => (nameText? piece).isNone
      some (.tree (.node (.extension (.footnoteReference (String.ofList name.tail))) []) :: others)
    else none

def closeBracket (ctx : Context) (s : State) : State :=
  let s := { s.advance 1 with inBrackets := false }
  match cutBracket? [] s.pieces with
  | none => s.putText [']']
  | some (inner, b, outer) =>
    let unmatched : State :=
      { s with pieces := .tree (textTree [']']) :: inner.reverse ++ .tree (textTree b.shown) :: outer }
    if !b.image && s.noLinks then unmatched
    else
      match inlineTarget? s.rest with
      | some (target, rest) => (s.advanceTo rest).makeLink b inner outer target
      | none =>
        let found := (s.targetLabel? b).bind fun (label, rest) => (lookUp ctx s label).map fun r => (r, rest)
        match found with
        | some (target, rest) =>
          { s.advanceTo rest with quota := s.quota - target.bytes }.makeLink b inner outer target
        | none =>
          match if ctx.options.footnotes then footnote? inner else none with
          | some pieces => { s with pieces := pieces.reverse ++ outer }
          | none => unmatched

/-- Whether plain text ends before this character. -/
def isSpecial (o : Options) (inBrackets : Bool) (c : Char) : Bool :=
  "\n_*\"\x60\\&<[]!".toList.contains c ||
    (o.autolink && (c = ':' || c = 'w')) || (o.strikethrough && c = '~') ||
    (o.superscript && c = '^' && !inBrackets) || (o.smart && (c = '\'' || c = '.' || c = '-'))

/-- Read plain text. White space is dropped before a line break and after a hard one. The first
character counts as plain whatever it is. -/
def plain (o : Options) (s : State) : State :=
  let length := ((s.rest.drop 1).takeWhile fun c => !isSpecial o s.inBrackets c).length + 1
  let text := s.rest.take length
  let next := s.advance length
  let text := if next.rest.head? = some '\n' then dropSpacesEnd text else text
  let text :=
    match s.pieces with
    | .tree (.node .lineBreak _) :: _ => dropSpaces text
    | _ => text
  next.putText text

/-- Read on; `none` at the end. -/
def step (ctx : Context) (s : State) : Option State :=
  let o := ctx.options
  match s.rest with
  | [] => none
  | c :: _ =>
    some <|
      match c with
      | '\n' => s.lineBreak
      | '\x60' => s.backticks
      | '\\' => s.backslash
      | '&' => s.ampersand
      | '<' => s.angleBracket
      | ':' => s.bareLink (if o.autolink then bareUrl? s.before s.rest else none) ':'
      | '*' | '_' | '\'' | '"' => s.delimiters o c
      | '-' => s.hyphen o
      | '.' => s.period o
      | '[' => s.openBracket false
      | ']' => s.closeBracket ctx
      | '!' => s.exclamation
      | '$' => (s.advance 1).putText ['$']
      | _ =>
        if c = 'w' && o.autolink then s.bareLink (bareHost? s.before s.rest) 'w'
        else if (c = '~' && o.strikethrough) || (c = '^' && o.superscript && !s.inBrackets) then s.delimiters o c
        else s.plain o

/-- Each step reads at least one character. -/
def run (ctx : Context) : (limit : Nat) → State → State
  | 0, s => s
  | limit + 1, s =>
    match s.step ctx with
    | none => s
    | some s => run ctx limit s

end State

/-- The inline content of a block's text, and the quota that is left. -/
def read (ctx : Context) (quota : Nat) (text : List Char) : List (RoseTree Value) × Nat :=
  let text := dropSpacesEnd text
  let s := State.run ctx text.length { rest := text, quota }
  (pair s.pieces.reverse, s.quota)

end Frontmark.Inline
