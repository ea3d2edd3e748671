import Frontmark.Text.Ascii

/-! A position in a line whose tabs reach to the next multiple of four columns.

A tab can be consumed in part; the columns left of it then count as spaces. -/

set_option autoImplicit false

namespace Frontmark.Block

open Frontmark.Text

def tabStop : Nat := 4

def codeIndent : Nat := 4

structure Cursor where
  rest : List Char
  column : Nat := 0
  /-- Whether `rest` starts with a tab of which some columns are consumed. -/
  insideTab : Bool := false

def tabWidth (column : Nat) : Nat :=
  tabStop - column % tabStop

/-- Columns of white space from `column` on, and the text after it. -/
def measureIndent : (column : Nat) → List Char → Nat × List Char
  | column, ' ' :: text =>
    let (width, rest) := measureIndent (column + 1) text
    (width + 1, rest)
  | column, '\t' :: text =>
    let (width, rest) := measureIndent (column + tabWidth column) text
    (width + tabWidth column, rest)
  | _, text => (0, text)

namespace Cursor

def indent (c : Cursor) : Nat :=
  (measureIndent c.column c.rest).1

/-- The text after the indentation. -/
def text (c : Cursor) : List Char :=
  (measureIndent c.column c.rest).2

def blank (c : Cursor) : Bool :=
  c.text.head? = some '\n'

/-- Consume one column. -/
def stepColumn (c : Cursor) : Cursor :=
  match c.rest with
  | [] => c
  | '\t' :: rest =>
    if tabWidth c.column = 1 then ⟨rest, c.column + 1, false⟩ else ⟨c.rest, c.column + 1, true⟩
  | _ :: rest => ⟨rest, c.column + 1, false⟩

def takeColumns : Nat → Cursor → Cursor
  | 0, c => c
  | n + 1, c => takeColumns n c.stepColumn

/-- Consume whole characters. -/
def takeChars : Nat → Cursor → Cursor
  | 0, c => c
  | n + 1, c =>
    match c.rest with
    | [] => c
    | '\t' :: rest => takeChars n ⟨rest, c.column + tabWidth c.column, false⟩
    | char :: rest => takeChars n ⟨rest, c.column + char.utf8Size, false⟩

def atSpace (c : Cursor) : Bool :=
  c.rest.head?.any isSpaceOrTab

/-- Consume one column of white space, if there is one. -/
def takeSpace (c : Cursor) : Cursor :=
  if c.atSpace then c.stepColumn else c

/-- Consume white space, but no more than `limit` columns. -/
def takeSpaces : (limit : Nat) → Cursor → Cursor
  | 0, c => c
  | limit + 1, c => if c.atSpace then takeSpaces limit c.stepColumn else c

def skipIndent (c : Cursor) : Cursor :=
  ⟨c.text, c.column + c.indent, false⟩

def lineEnd (c : Cursor) : Cursor :=
  ⟨['\n'], c.column, false⟩

/-- What is left of the line, a tab that is consumed in part being spelled out. -/
def remainder (c : Cursor) : List Char :=
  if c.insideTab then List.replicate (tabWidth c.column) ' ' ++ c.rest.tail else c.rest

end Cursor

end Frontmark.Block
