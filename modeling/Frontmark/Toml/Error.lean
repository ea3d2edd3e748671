import Frontmark.Text.Ascii
import Frontmark.Text.Utf8

/-! What can be wrong with a TOML text, and how it is shown. -/

set_option autoImplicit false

namespace Frontmark.Toml

open Frontmark.Text

/-- The kinds of values that are not tables. -/
inductive Kind where
  | string
  | integer
  | float
  | boolean
  | datetime
  | array
  | inlineTable
  deriving DecidableEq, Repr

def Kind.name : Kind → String
  | string => "string"
  | integer => "integer"
  | float => "float"
  | boolean => "boolean"
  | datetime => "datetime"
  | array => "array"
  | inlineTable => "inline table"

/-- Why something that is well-formed is refused all the same. -/
inductive Cause where
  | outOfRange
  | tooLarge
  | tooSmall
  | tooDeep
  | repeatedKey (key : String) (table? : Option (List String))
  | notTable (path : List String) (kind : Kind)
  /-- A date or time is to be given as a string. -/
  | noString (found : String)
  | badMoment (reason : String)
  deriving DecidableEq, Repr

def isKeyChar (c : Char) : Bool :=
  isAlphanumeric c || c = '-' || c = '_'

def hexDigits (n width : Nat) : List Char :=
  let digits := (Nat.toDigits 16 n).map fun c => if 'a' ≤ c then Char.ofNat (c.toNat - 32) else c
  List.replicate (width - digits.length) '0' ++ digits

def escape (c : Char) : List Char :=
  if c = '\x08' then ['\\', 'b']
  else if c = '\t' then ['\\', 't']
  else if c = '\n' then ['\\', 'n']
  else if c = '\x0c' then ['\\', 'f']
  else if c = '\r' then ['\\', 'r']
  else if c = '"' then ['\\', '"']
  else if c = '\\' then ['\\', '\\']
  else if isControl c then ['\\', 'u'] ++ hexDigits c.toNat 4
  else [c]

/-- Whether single quotes are better for a text: it has characters that would be escaped between double ones,
and is of Latin characters that can stand between single ones. -/
def prefersSingleQuotes (text : List Char) : Bool :=
  (text.any fun c => c = '"' || c = '\\') &&
    text.all fun c => c = '\t' || !(isControl c || c = '\'') && c.toNat ≤ 0xFF

/-- A key as it has to be written, in quotes if need be. -/
def keyText (key : String) : String :=
  let text := key.toList
  if !key.isEmpty && text.all isKeyChar then key
  else if prefersSingleQuotes text then String.ofList ('\'' :: text ++ ['\''])
  else String.ofList ('"' :: text.flatMap escape ++ ['"'])

def code (s : String) : String :=
  "\x60" ++ s ++ "\x60"

def pathText (path : List String) : String :=
  String.intercalate "." path

def Cause.text : Cause → String
  | outOfRange => "value is out of range"
  | tooLarge => "number too large to fit in target type"
  | tooSmall => "number too small to fit in target type"
  | tooDeep => "recursion limit exceeded"
  | repeatedKey key table? =>
    "duplicate key " ++ code key ++
      match table? with
      | none => ""
      | some [] => " in document root"
      | some path => " in table " ++ code (pathText path)
  | notTable path kind =>
    "dotted key " ++ code (pathText path) ++ " attempted to extend non-table type (" ++ kind.name ++ ")"
  | noString found => "invalid type: " ++ found ++ ", expected string containing a datetime"
  | badMoment reason => reason

/-- The construct that is not well-formed. -/
inductive Construct where
  | key
  | tableHeader
  | string
  | basicString
  | literalString
  | longBasicString
  | longLiteralString
  | escape
  | shortCode
  | longCode
  | integer
  | hexInteger
  | octalInteger
  | binaryInteger
  | float
  | dateTime
  | time
  | timeOffset
  | array
  | inlineTable
  deriving DecidableEq, Repr

def Construct.name : Construct → String
  | key => "key"
  | tableHeader => "table header"
  | string => "string"
  | basicString => "basic string"
  | literalString => "literal string"
  | longBasicString => "multiline basic string"
  | longLiteralString => "multiline literal string"
  | escape => "escape sequence"
  | shortCode => "unicode 4-digit hex code"
  | longCode => "unicode 8-digit hex code"
  | integer => "integer"
  | hexInteger => "hexadecimal integer"
  | octalInteger => "octal integer"
  | binaryInteger => "binary integer"
  | float => "floating-point number"
  | dateTime => "date-time"
  | time => "time"
  | timeOffset => "time offset"
  | array => "array"
  | inlineTable => "inline table"

/-- What could have stood in a place instead. -/
inductive Expected where
  | sign (s : String)
  | newLine
  | digit
  | leadingDigit
  deriving DecidableEq, Repr

def Expected.text : Expected → String
  | sign s => code s
  | newLine => "newline"
  | digit => "digit"
  | leadingDigit => "leading digit"

/-- A fault and where it was found, given by the text from there on. -/
structure Failure where
  rest : List Char
  /-- How many bytes are at fault; those of the first character unless more is known. -/
  bytes : Nat := (rest.head?.map Char.utf8Size).getD 0
  /-- Whether no other way of reading the text is tried. -/
  final : Bool := false
  /-- The innermost construct with a name. -/
  construct? : Option Construct := none
  expected : List Expected := []
  cause? : Option Cause := none
  deriving DecidableEq, Repr

namespace Failure

def reason (f : Failure) : String :=
  let construct := f.construct?.toList.map fun c => "invalid " ++ c.name
  let expected := if f.expected.isEmpty then [] else ["expected " ++ String.intercalate ", " (f.expected.map Expected.text)]
  String.intercalate "\n" (construct ++ expected ++ f.cause?.toList.map Cause.text)

/-- The lines of a text. -/
def lines (text : List Char) : List (List Char) :=
  text.splitOn '\n'

/-- The line and the column of the fault, counted from zero. Columns are characters, but before a character
beyond ASCII they are bytes. The end of the text is the place after its last character, on the same line. -/
def place (text : List Char) (f : Failure) : Nat × Nat :=
  let before := text.take (text.length - f.rest.length)
  let upTo (before : List Char) : Nat × List Char := (before.count '\n', (lines before).getLast?.getD [])
  match f.rest with
  | [] =>
    let (line, start) := upTo before.dropLast
    (line, if before.isEmpty then 0 else start.length + 1)
  | c :: _ =>
    let (line, start) := upTo before
    (line, if c.toNat < 0x80 then start.length else Utf8.size start)

def spaces (n : Nat) : String :=
  String.ofList (List.replicate n ' ')

/-- The fault with the line that it is on. What is at fault is underlined for each of its bytes. -/
def message (text : List Char) (f : Failure) : String :=
  let (line, column) := f.place text
  let number := toString (line + 1)
  let gutter := spaces (number.length + 1) ++ "|"
  let content := (lines text).getD line []
  let width := min f.bytes (Utf8.size content - column)
  "TOML parse error at line " ++ number ++ ", column " ++ toString (column + 1) ++ "\n" ++
    gutter ++ "\n" ++
    number ++ " | " ++ String.ofList content ++ "\n" ++
    gutter ++ spaces (column + 1) ++ "^" ++ String.ofList (List.replicate (width - 1) '^') ++ "\n" ++
    f.reason ++ "\n"

end Failure

end Frontmark.Toml
