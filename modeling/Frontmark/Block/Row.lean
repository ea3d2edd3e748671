import Frontmark.Text.Ascii

/-! Rows of tables: cells between vertical bars. -/

set_option autoImplicit false

namespace Frontmark.Block

open Frontmark.Text

/-- White space inside a row: all but the line break. -/
def isRowSpace (c : Char) : Bool :=
  isGap c && c ≠ '\n'

/-- The text before the row, and the row's cells. -/
structure Row where
  before : List Char
  cells : List (List Char)
  deriving DecidableEq, Repr

/-- A cell's text up to its end, and the rest. A bar after a backslash belongs to the cell. -/
def cell : (found : List Char) → List Char → List Char × List Char
  | found, [] => (found.reverse, [])
  | found, c :: text =>
    if c = '\n' || (c = '|' && found.head? ≠ some '\\') then (found.reverse, c :: text)
    else cell (c :: found) text

/-- The text after a bar and the white space behind it. -/
def afterBar? : List Char → Option (List Char)
  | '|' :: text => some (text.dropWhile isRowSpace)
  | _ => none

def skipBar (text : List Char) : List Char :=
  (afterBar? text).getD text

def dropBarEscapes : List Char → List Char
  | [] => []
  | '\\' :: '|' :: text => '|' :: dropBarEscapes text
  | c :: text => c :: dropBarEscapes text

/-- Read cells to the end of the text. What precedes the last line turns out not to belong to the row
when the line is reached: `whole` is the full text, by which its length is known. -/
def rowCells (whole : List Char) : (limit : Nat) → Row → List Char → Option Row
  | 0, _, _ => none
  | limit + 1, row, text =>
    if text.isEmpty then if row.cells.isEmpty then none else some row
    else
      let (found, rest) := cell [] text
      let bar := afterBar? rest
      let cells :=
        if found.isEmpty && bar.isNone then row.cells else row.cells ++ [strip (dropBarEscapes found)]
      match bar with
      | some rest => rowCells whole limit { row with cells } rest
      | none =>
        match rest.dropWhile isRowSpace with
        | '\n' :: [] => if cells.isEmpty then none else some { row with cells }
        | '\n' :: rest => rowCells whole limit ⟨whole.take (whole.length - rest.length), []⟩ (skipBar rest)
        | [] => if rest.isEmpty && !cells.isEmpty then some { row with cells } else none
        | _ => none

/-- The row that ends a text, if its last line is one. -/
def row? (text : List Char) : Option Row :=
  rowCells text (text.length + 1) ⟨[], []⟩ (skipBar text)

/-- A delimiter cell: hyphens, with a colon on either side allowed, among white space. -/
def skipDelimiterCell? (text : List Char) : Option (List Char) :=
  let skipColon (text : List Char) := if text.head? = some ':' then text.tail else text
  let hyphens := skipColon (text.dropWhile isRowSpace)
  let rest := hyphens.dropWhile (· = '-')
  if rest.length = hyphens.length then none else some ((skipColon rest).dropWhile isRowSpace)

/-- Delimiter cells with bars between them, to the end of the line. -/
def delimitersEnd : (limit : Nat) → List Char → Bool
  | 0, _ => false
  | limit + 1, text =>
    match skipDelimiterCell? text with
    | none => false
    | some ('\n' :: _) => true
    | some ('|' :: rest) =>
      match rest.dropWhile isRowSpace with
      | '\n' :: _ => true
      | _ => delimitersEnd limit rest
    | some _ => false

def isDelimiterRow (text : List Char) : Bool :=
  delimitersEnd text.length (if text.head? = some '|' then text.tail else text)

end Frontmark.Block
