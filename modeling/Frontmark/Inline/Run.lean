import Frontmark.Markup.RoseTree
import Frontmark.Text.Blank
import Frontmark.Text.Punctuation

/-! Runs of delimiters in a line of text, and what their neighbours say about them. -/

set_option autoImplicit false

namespace Frontmark.Inline

open Frontmark.Text
open Frontmark.Markup (RoseTree Value)

/-- A run that can start or end a construct. `shown` is its text as far as it is not used up, `length`
the length that it had at first, and `position` grows from each run of a text to the next. -/
structure Run where
  mark : Char
  shown : List Char
  length : Nat
  canOpen : Bool
  canClose : Bool
  position : Nat
  deriving DecidableEq, Repr

def isPunctuation (c : Char) : Bool :=
  punctuation.contains c

/-- Whether text follows directly. -/
def leftFlanking (before after : Char) : Bool :=
  !isBlank after && (!isPunctuation after || isBlank before || isPunctuation before)

/-- Whether text precedes directly. -/
def rightFlanking (before after : Char) : Bool :=
  leftFlanking after before

def canOpen (mark before after : Char) : Bool :=
  let left := leftFlanking before after
  let right := rightFlanking before after
  if mark = '_' then left && (!right || isPunctuation before)
  else if mark = '\'' || mark = '"' then
    left && (!right || before = '(' || before = '[') && before ≠ ']' && before ≠ ')'
  else left

def canClose (mark before after : Char) : Bool :=
  let left := leftFlanking before after
  let right := rightFlanking before after
  if mark = '_' then right && (!left || isPunctuation after) else right

/-- The character next to a run, tildes being looked through where they are delimiters themselves.
The end of the text counts as a line break. -/
def neighbour (throughTildes : Bool) (text : List Char) : Char :=
  ((if throughTildes then text.dropWhile (· = '~') else text).head?).getD '\n'

/-- An opening bracket that is not closed yet. `inside` is the text after it, which begins at `start`. -/
structure Bracket where
  image : Bool
  inside : List Char
  start : Nat
  deriving DecidableEq, Repr

/-- What a line of text consists of while it is being read. -/
inductive Piece where
  | tree (t : RoseTree Value)
  | run (r : Run)
  | bracket (b : Bracket)

def Bracket.shown (b : Bracket) : List Char :=
  if b.image then ['!', '['] else ['[']

def textTree (text : List Char) : RoseTree Value :=
  .node (.text (String.ofList text)) []

/-- A piece for what it is as long as nothing else comes of it. -/
def Piece.settled : Piece → RoseTree Value
  | .tree t => t
  | .run r => textTree r.shown
  | .bracket b => textTree b.shown

end Frontmark.Inline
