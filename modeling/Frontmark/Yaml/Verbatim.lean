import Frontmark.Yaml.Gap

/-! Block scalars: the lines of text below a bar, or below an angle bracket, which folds them. -/

set_option autoImplicit false

namespace Frontmark.Yaml.Verbatim

open Frontmark.Text

/-- What becomes of the line breaks at the end: all go, one stays, or all stay. -/
inductive Chomping where
  | strip
  | clip
  | keep
  deriving DecidableEq, Repr

structure Header where
  chomping : Chomping := .clip
  /-- The indentation beyond that of the parent, if it is given. -/
  indent? : Option Nat := none

def chomping? (c : Char) : Option Chomping :=
  if c = '+' then some .keep else if c = '-' then some .strip else none

/-- Read the digit of an indentation, if there is one. -/
def readIndent (start : Mark) (c : Cursor) : Except Malformed (Option Nat × Cursor) :=
  match c.head? with
  | none => .ok (none, c)
  | some x =>
    if x = '0' then fail .blockScalar start .zeroIndentation c
    else if isDigit x then .ok (some (digitValue x), c.skip)
    else .ok (none, c)

def readChomping (c : Cursor) : Option Chomping × Cursor :=
  match c.head?.bind chomping? with
  | some k => (some k, c.skip)
  | none => (none, c)

def readHeader (start : Mark) (c : Cursor) : Except Malformed (Header × Cursor) := do
  let (early, c) := readChomping c
  let (indent?, c) ← readIndent start c
  let (late, c) := if early.isNone && indent?.isSome then readChomping c else (none, c)
  let c := c.skipBlanks.skipComment
  if isBreakOrEnd c.rest then return (⟨(early <|> late).getD .clip, indent?⟩, c.skipBreak)
  else fail .blockScalar start .noCommentOrBreak c

structure Breaks where
  text : List Char
  /-- The largest indentation of the lines that have been passed. -/
  widest : Nat
  next : Cursor

/-- Pass indentation and empty lines. Without an indentation to go by all spaces are passed. -/
def passBreaks (start : Mark) (indent? : Option Nat) :
    Nat → (text : List Char) → (widest : Nat) → Cursor → Except Malformed Breaks
  | 0, text, widest, c => .ok ⟨text, widest, c⟩
  | fuel + 1, text, widest, c =>
    let spaces := (c.rest.takeWhile (· = ' ')).length
    let c := c.skipMany (match indent? with | none => spaces | some n => min spaces (n - c.column))
    let widest := max widest c.column
    if c.head? = some '\t' && indent?.all (c.column < ·) then fail .blockScalar start .tabInIndentation c
    else if c.head?.any isBreak then
      let (b, next) := c.takeBreak
      passBreaks start indent? fuel (text ++ b) widest next
    else .ok ⟨text, widest, c⟩

def startsBlank (c : Cursor) : Bool :=
  c.head?.any isSpaceOrTab

/-- Read the lines with at least `indent` columns before them. `text` is what has been read, last character
first; `ending` is the line break after it and `breaks` those of the empty lines that follow. A folded
line break is a space, except beside a line that is indented further. -/
def readLines (folded : Bool) (start : Mark) (indent : Nat) :
    Nat → (text : List Char) → (ending breaks : List Char) → (indented : Bool) → Cursor →
      Except Malformed (List Char × List Char × List Char × Cursor)
  | 0, text, ending, breaks, _, c => .ok (text, ending, breaks, c)
  | fuel + 1, text, ending, breaks, indented, c =>
    if c.column = indent && !c.rest.isEmpty then do
      let blank := startsBlank c
      let joint :=
        if folded && ending = ['\n'] && !indented && !blank then if breaks.isEmpty then [' '] else breaks
        else ending ++ breaks
      let (line, c) := c.takeWhile (!isBreak ·)
      let (ending, c) := c.takeBreak
      let b ← passBreaks start (some indent) (c.rest.length + 1) [] 0 c
      readLines folded start indent fuel (line.reverse ++ joint.reverse ++ text) ending b.text blank b.next
    else .ok (text, ending, breaks, c)

/-- Read a scalar from its bar or bracket on, which stands `parent` columns in, if at all. -/
def read (folded : Bool) (parent : Option Nat) (c : Cursor) : Except Malformed (List Char × Cursor) := do
  let start := c.mark
  let (header, c) ← readHeader start c.skip
  let given := header.indent?.map (parent.getD 0 + ·)
  let b ← passBreaks start given (c.rest.length + 1) [] 0 c
  let least := max 1 (parent.elim 0 (· + 1))
  let (text, ending, breaks, c) ←
    readLines folded start (given.getD (max b.widest least)) (c.rest.length + 1) [] [] b.text false b.next
  let tail :=
    match header.chomping with
    | .strip => []
    | .clip => ending
    | .keep => ending ++ breaks
  return (text.reverse ++ tail, c)

end Frontmark.Yaml.Verbatim
