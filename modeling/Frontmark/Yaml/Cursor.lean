import Frontmark.Text.Ascii
import Frontmark.Text.Utf8

/-! Places in a YAML text, and reading from a place on.

Lines end at a carriage return, a line feed, the two together, or one of the Unicode characters for a
new line, a line or a paragraph. -/

set_option autoImplicit false

namespace Frontmark.Yaml

open Frontmark.Text

/-- A place in a text: the bytes before it, and its line and column, all counted from zero. -/
structure Mark where
  offset : Nat := 0
  line : Nat := 0
  column : Nat := 0
  deriving DecidableEq, Repr

namespace Mark

/-- The very beginning of a text is not worth a mention. -/
def isStart (m : Mark) : Bool :=
  m.line = 0 && m.column = 0

def samePlace (m n : Mark) : Bool :=
  m.line = n.line && m.column = n.column

def text (m : Mark) : String :=
  " at line " ++ toString (m.line + 1) ++ " column " ++ toString (m.column + 1)

def text? (m : Mark) : String :=
  if m.isStart then "" else m.text

end Mark

def isBreak (c : Char) : Bool :=
  c = '\n' || c = '\r' || c = '\u0085' || c = '\u2028' || c = '\u2029'

def isBreakOrEnd : List Char → Bool
  | [] => true
  | c :: _ => isBreak c

/-- Whether the text begins with a space, a tab or a line break, or is at its end. -/
def isSeparated : List Char → Bool
  | [] => true
  | c :: _ => isSpaceOrTab c || isBreak c

/-- The letters of names: those of ASCII, digits, the hyphen and the underscore. -/
def isNameChar (c : Char) : Bool :=
  isAlphanumeric c || c = '-' || c = '_'

structure Cursor where
  mark : Mark
  rest : List Char

namespace Cursor

def column (c : Cursor) : Nat :=
  c.mark.column

def head? (c : Cursor) : Option Char :=
  c.rest.head?

def skip (c : Cursor) : Cursor :=
  match c.rest with
  | [] => c
  | x :: rest => ⟨{ c.mark with offset := c.mark.offset + x.utf8Size, column := c.mark.column + 1 }, rest⟩

def skipMany : Nat → Cursor → Cursor
  | 0, c => c
  | n + 1, c => skipMany n c.skip

def skipWhile (p : Char → Bool) (c : Cursor) : Cursor :=
  let passed := c.rest.takeWhile p
  let offset := c.mark.offset + Utf8.size passed
  ⟨{ c.mark with offset, column := c.mark.column + passed.length }, c.rest.dropWhile p⟩

/-- The characters up to the first that does not satisfy `p`, and the place of that one. -/
def takeWhile (p : Char → Bool) (c : Cursor) : List Char × Cursor :=
  (c.rest.takeWhile p, c.skipWhile p)

/-- Pass one line break. It counts as a line feed, unless it separates lines or paragraphs. -/
def takeBreak (c : Cursor) : List Char × Cursor :=
  let next (n : Nat) (rest : List Char) : Cursor := ⟨⟨c.mark.offset + n, c.mark.line + 1, 0⟩, rest⟩
  match c.rest with
  | '\r' :: '\n' :: rest => (['\n'], next 2 rest)
  | b :: rest =>
    if b = '\u2028' || b = '\u2029' then ([b], next b.utf8Size rest)
    else if isBreak b then (['\n'], next b.utf8Size rest)
    else ([], c)
  | [] => ([], c)

def skipBreak (c : Cursor) : Cursor :=
  c.takeBreak.2

def skipBlanks (c : Cursor) : Cursor :=
  c.skipWhile isSpaceOrTab

/-- Pass a comment, if there is one. -/
def skipComment (c : Cursor) : Cursor :=
  if c.head? = some '#' then c.skipWhile (!isBreak ·) else c

/-- Whether a line starts here that separates documents: three hyphens or three dots by themselves. -/
def isDocumentLine (c : Cursor) : Bool :=
  c.column = 0 &&
    match c.rest with
    | '-' :: '-' :: '-' :: rest => isSeparated rest
    | '.' :: '.' :: '.' :: rest => isSeparated rest
    | _ => false

end Cursor

end Frontmark.Yaml
