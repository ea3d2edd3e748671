import Frontmark.Yaml.Plain
import Frontmark.Yaml.Quoted
import Frontmark.Yaml.Tag
import Frontmark.Yaml.Verbatim

/-! Cutting a YAML text into tokens.

Indentation opens and closes blocks. What turns out to be a key only at the colon after it is remembered
until then, and the tokens that announce a key are put in front of it. A key must fit on one line and in
1024 bytes. -/

set_option autoImplicit false

namespace Frontmark.Yaml

open Frontmark.Text

/-- A token that can still turn out to be a key. -/
structure Candidate where
  mark : Mark
  /-- The number of tokens before it. -/
  position : Nat
  /-- Whether nothing but a key can stand there. -/
  required : Bool

def keyLimit : Nat := 1024

/-- Whether a key would be too long, or broken, by now. -/
def Candidate.isStale (k : Candidate) (now : Mark) : Bool :=
  k.mark.line < now.line || k.mark.offset + keyLimit < now.offset

structure Layout where
  cursor : Cursor
  /-- The tokens so far, the last one first. -/
  tokens : List Token := []
  count : Nat := 0
  count_eq : count = tokens.length := by rfl
  /-- The columns of the open blocks, the innermost first. -/
  indents : List Nat := []
  candidate? : Option Candidate := none
  /-- The candidates of the enclosing flow collections and of the block that they are in. -/
  enclosing : List (Option Candidate) := []
  keyAllowed : Bool := true
  ended : Bool := false

namespace Layout

def mark (l : Layout) : Mark :=
  l.cursor.mark

def inFlow (l : Layout) : Bool :=
  !l.enclosing.isEmpty

def add (l : Layout) (token : Token) : Layout :=
  { l with tokens := token :: l.tokens, count := l.count + 1, count_eq := by simp [l.count_eq] }

def put (l : Layout) (mark : Mark) (symbol : Symbol) : Layout :=
  l.add ⟨mark, symbol⟩

/-- Put a token in front of the one at a position. -/
def insertAt (l : Layout) (position : Nat) (token : Token) : Layout :=
  let later := l.count - position
  { l with
    tokens := l.tokens.take later ++ token :: l.tokens.drop later
    count := l.count + 1
    count_eq := by simp [l.count_eq]; omega }

/-- How many of the tokens are certain, whatever follows. -/
def settled (l : Layout) : Nat :=
  ((l.candidate? :: l.enclosing).filterMap (·.map Candidate.position)).foldl min l.count

def noColon (l : Layout) (k : Candidate) : Malformed :=
  { problem := .noColon, mark := l.mark, within? := some (.simpleKey, k.mark) }

def checkStale (l : Layout) : Option Candidate → Except Malformed (Option Candidate)
  | none => .ok none
  | some k =>
    if k.isStale l.mark then if k.required then .error (l.noColon k) else .ok none
    else .ok (some k)

/-- Forget candidates that have become too long. -/
def dropStale (l : Layout) : Except Malformed Layout := do
  let enclosing ← l.enclosing.mapM l.checkStale
  let candidate? ← l.checkStale l.candidate?
  return { l with candidate?, enclosing }

def dropCandidate (l : Layout) : Except Malformed Layout :=
  match l.candidate? with
  | none => .ok l
  | some k => if k.required then .error (l.noColon k) else .ok { l with candidate? := none }

/-- Note that the next token can be a key. -/
def noteCandidate (l : Layout) : Except Malformed Layout := do
  if l.keyAllowed then
    let required := !l.inFlow && l.indents.head? = some l.mark.column
    let l ← l.dropCandidate
    return { l with candidate? := some ⟨l.mark, l.count, required⟩ }
  else return l

/-- Open a block for what stands at `column`, unless it belongs to the current one.
The block starts before the token at `position`, or else now. -/
def openBlock (l : Layout) (column : Nat) (position? : Option Nat) (mark : Mark) (symbol : Symbol) : Layout :=
  if l.inFlow || l.indents.head?.any (column ≤ ·) then l
  else
    let l := { l with indents := column :: l.indents }
    match position? with
    | none => l.put mark symbol
    | some position => l.insertAt position ⟨mark, symbol⟩

/-- Close the blocks that stand further in than `column`; without one, all of them. -/
def closeBlocks (l : Layout) (column? : Option Nat) : Layout :=
  if l.inFlow then l
  else
    let isInner (indent : Nat) : Bool := column?.all (· < indent)
    let closed := (l.indents.takeWhile isInner).foldl (fun closed _ => closed.put l.mark .blockEnd) l
    { closed with indents := l.indents.dropWhile isInner }

/-- Pass blanks, comments and line breaks. A tab is no blank where a block could begin. A line can start with
a byte order mark. -/
def passGaps : Nat → Layout → Layout
  | 0, l => l
  | fuel + 1, l =>
    let c := if l.mark.column = 0 && l.cursor.head? = some '\ufeff' then l.cursor.skip else l.cursor
    let c := (c.skipWhile fun x => x = ' ' || (x = '\t' && (l.inFlow || !l.keyAllowed))).skipComment
    if c.head?.any isBreak then
      passGaps fuel { l with cursor := c.skipBreak, keyAllowed := l.keyAllowed || !l.inFlow }
    else { l with cursor := c }

/-- Take characters that are a token by themselves. -/
def take (l : Layout) (n : Nat) (symbol : Symbol) : Layout :=
  { l.put l.mark symbol with cursor := l.cursor.skipMany n }

def refuse (l : Layout) (problem : Problem) : Except Malformed Layout :=
  .error { problem, mark := l.mark }

def finish (l : Layout) : Except Malformed Layout := do
  let m := l.mark
  let m := if m.column = 0 then m else { m with line := m.line + 1, column := 0 }
  let l ← (closeBlocks { l with cursor := { l.cursor with mark := m } } none).dropCandidate
  return { l.put m .textEnd with keyAllowed := false, ended := true }

def directive (l : Layout) : Except Malformed Layout := do
  let l ← (l.closeBlocks none).dropCandidate
  let (token, cursor) ← readDirective l.cursor
  return { l.add token with cursor, keyAllowed := false }

def documentLine (l : Layout) (symbol : Symbol) : Except Malformed Layout := do
  let l ← (l.closeBlocks none).dropCandidate
  return { l.take 3 symbol with keyAllowed := false }

def openFlow (l : Layout) (symbol : Symbol) : Except Malformed Layout := do
  let l ← l.noteCandidate
  return { l.take 1 symbol with candidate? := none, enclosing := l.candidate? :: l.enclosing, keyAllowed := true }

def closeFlow (l : Layout) (symbol : Symbol) : Except Malformed Layout := do
  let l ← l.dropCandidate
  let l := { l.take 1 symbol with keyAllowed := false }
  match l.enclosing with
  | [] => return l
  | candidate? :: enclosing => return { l with candidate?, enclosing }

def comma (l : Layout) : Except Malformed Layout := do
  let l ← l.dropCandidate
  return { l.take 1 .comma with keyAllowed := true }

def dash (l : Layout) : Except Malformed Layout := do
  if !l.inFlow && !l.keyAllowed then l.refuse .entryNotAllowed
  else
    let l ← (l.openBlock l.mark.column none l.mark .blockSequence).dropCandidate
    return { l.take 1 .dash with keyAllowed := true }

def key (l : Layout) : Except Malformed Layout := do
  if !l.inFlow && !l.keyAllowed then l.refuse .keyNotAllowed
  else
    let l ← (l.openBlock l.mark.column none l.mark .blockMapping).dropCandidate
    return { l.take 1 .key with keyAllowed := !l.inFlow }

def value (l : Layout) : Except Malformed Layout :=
  match l.candidate? with
  | some k =>
    let l := l.insertAt k.position ⟨k.mark, .key⟩
    let l := l.openBlock k.mark.column (some k.position) k.mark .blockMapping
    .ok { l.take 1 .value with candidate? := none, keyAllowed := false }
  | none =>
    if !l.inFlow && !l.keyAllowed then l.refuse .valueNotAllowed
    else
      let l := l.openBlock l.mark.column none l.mark .blockMapping
      .ok { l.take 1 .value with keyAllowed := !l.inFlow }

def name (l : Layout) (construct : Construct) (symbol : List Char → Symbol) : Except Malformed Layout := do
  let l ← l.noteCandidate
  let (name, cursor) ← readAnchor construct l.cursor
  return { l.put l.mark (symbol name) with cursor, keyAllowed := false }

def tag (l : Layout) : Except Malformed Layout := do
  let l ← l.noteCandidate
  let (token, cursor) ← readTagAlone l.inFlow l.cursor
  return { l.add token with cursor, keyAllowed := false }

def verbatim (l : Layout) (style : Style) : Except Malformed Layout := do
  let l ← l.dropCandidate
  let (text, cursor) ← Verbatim.read (style = .folded) l.indents.head? l.cursor
  return { l.put l.mark (.scalar style text) with cursor, keyAllowed := true }

def quoted (l : Layout) (style : Style) (quote : Char) : Except Malformed Layout := do
  let l ← l.noteCandidate
  let (text, cursor) ← Quoted.read quote l.cursor
  return { l.put l.mark (.scalar style text) with cursor, keyAllowed := false }

def plain (l : Layout) : Except Malformed Layout := do
  let l ← l.noteCandidate
  let s ← Plain.read l.inFlow (l.indents.head?.elim 0 (· + 1)) l.cursor
  return { l.put l.mark (.scalar .plain s.text) with cursor := s.next, keyAllowed := s.broken }

/-- Read the token that stands here. -/
def token (l : Layout) : Except Malformed Layout :=
  match l.cursor.rest with
  | [] => l.finish
  | x :: rest =>
    let follows := l.inFlow || isSeparated rest
    if x = '%' && l.mark.column = 0 then l.directive
    else if l.cursor.isDocumentLine then l.documentLine (if x = '-' then .documentStart else .documentEnd)
    else if x = '[' then l.openFlow .sequenceStart
    else if x = '\x7b' then l.openFlow .mappingStart
    else if x = ']' then l.closeFlow .sequenceEnd
    else if x = '\x7d' then l.closeFlow .mappingEnd
    else if x = ',' then l.comma
    else if x = '-' && isSeparated rest then l.dash
    else if x = '?' && follows then l.key
    else if x = ':' && follows then l.value
    else if x = '*' then l.name .reference .reference
    else if x = '&' then l.name .anchor .anchor
    else if x = '!' then l.tag
    else if x = '|' && !l.inFlow then l.verbatim .literal
    else if x = '>' && !l.inFlow then l.verbatim .folded
    else if x = '\'' then l.quoted .singleQuoted x
    else if x = '"' then l.quoted .doubleQuoted x
    else if Plain.canStart l.inFlow l.cursor.rest then l.plain
    else fail .token l.mark .noToken l.cursor

/-- Read the next token, and see then which candidates are left. No more than `limit` characters are left. -/
def next (limit : Nat) (l : Layout) : Except Malformed Layout := do
  let l ← (passGaps (limit + 1) l).dropStale
  let l ← (l.closeBlocks (some l.mark.column)).token
  l.dropStale

end Layout

end Frontmark.Yaml
