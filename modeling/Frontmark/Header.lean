import Frontmark.Text.Blank

/-! The metadata block at the head of a text.

A block opens with a fence on the first line and is closed by the first later line that holds the
same fence, or three dots, and otherwise only blanks. Blank lines after the closing fence belong to
the block. A text that opens no block, or never closes it, is all body. -/

set_option autoImplicit false

namespace Frontmark.Header

open Frontmark.Text

def byteOrderMark : Char := '\ufeff'

def fences : List (List Char) :=
  ["---".toList, "= yaml =".toList]

def dots : List Char :=
  "...".toList

/-- The text after `start`, if it begins so. -/
def dropStart? : (start text : List Char) → Option (List Char)
  | [], text => some text
  | _ :: _, [] => none
  | s :: start, c :: text => if s = c then dropStart? start text else none

/-- What stands from a closing fence on. -/
structure Closing where
  fence : List Char
  gap : List Char
  body : List Char
  deriving DecidableEq, Repr

/-- Blanks up to and including the last line break, and what follows them.
There is none when something else stands on the line of the fence itself. -/
def gap? (text : List Char) : Option (List Char × List Char) :=
  let blanks := text.takeWhile isBlank
  let rest := text.dropWhile isBlank
  if rest.isEmpty then some (text, [])
  else
    let indent := (blanks.reverse.takeWhile (· ≠ '\n')).reverse
    let lines := (blanks.reverse.dropWhile (· ≠ '\n')).reverse
    if lines.isEmpty then none else some (lines, indent ++ rest)

def closingWith? (text fence : List Char) : Option Closing :=
  match dropStart? fence text with
  | none => none
  | some rest => (gap? rest).map fun (gap, body) => ⟨fence, gap, body⟩

/-- Whether a line that starts here closes a block opened by `opener`. -/
def closing? (opener text : List Char) : Option Closing :=
  [opener, dots].findSome? (closingWith? text)

/-- Look for the first closing line. `passed` holds the characters passed so far, last one first. -/
def seek (opener : List Char) : (passed : List Char) → (lineStart : Bool) → (text : List Char) →
    Option (List Char × Closing)
  | passed, lineStart, text =>
    match if lineStart then closing? opener text else none with
    | some closing => some (passed.reverse, closing)
    | none =>
      match text with
      | [] => none
      | c :: rest => seek opener (c :: passed) (c = '\n') rest

/-- A text cut at the seams of its metadata block. -/
structure Block where
  lead : List Char
  opener : List Char
  raw : List Char
  closing : Closing
  deriving DecidableEq, Repr

def Block.text (b : Block) : List Char :=
  b.lead ++ b.opener ++ b.raw ++ b.closing.fence ++ b.closing.gap ++ b.closing.body

/-- Everything of the text that precedes the body. -/
def Block.head (b : Block) : List Char :=
  b.lead ++ b.opener ++ b.raw ++ b.closing.fence ++ b.closing.gap

def cutLead : List Char → List Char × List Char
  | [] => ([], [])
  | c :: text => if c = byteOrderMark then ([c], text) else ([], c :: text)

def dropReturn (line : List Char) : List Char :=
  if line.getLast? = some '\r' then line.dropLast else line

def locate (text : List Char) : Option Block :=
  let (lead, rest) := cutLead text
  let line := rest.takeWhile (· ≠ '\n')
  let opener := dropReturn line
  if opener ∉ fences then none
  else
    match rest.dropWhile (· ≠ '\n') with
    | [] => none
    | _ :: after =>
      (seek opener ('\n' :: (line.drop opener.length).reverse) true after).map fun (raw, closing) =>
        ⟨lead, opener, raw, closing⟩

/-- A text divided into header and body. An empty block gives an empty header, which is not the same
as none. `bodyBegin` is the line of the text on which the body starts, counted from one. -/
structure Split where
  header : Option String
  body : String
  bodyBegin : Nat
  deriving DecidableEq, Repr

def split (text : String) : Split :=
  match locate text.toList with
  | none => ⟨none, text, 1⟩
  | some block =>
    ⟨some (String.ofList (trim block.raw)), String.ofList block.closing.body, 1 + block.head.count '\n'⟩

/-- A body with its header written above it, if it has one. -/
def attach (header : Option String) (body : String) : String :=
  match header with
  | none => body
  | some header => "---\n" ++ header ++ "\n---\n" ++ body

end Frontmark.Header
