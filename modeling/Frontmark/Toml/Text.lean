import Frontmark.Toml.Scan

/-! TOML strings. -/

set_option autoImplicit false

namespace Frontmark.Toml

open Frontmark.Text

def isBasicChar (c : Char) : Bool :=
  isCommentChar c && c ≠ '"' && c ≠ '\\'

def isLiteralChar (c : Char) : Bool :=
  isCommentChar c && c ≠ '\''

def escapeLetter? (c : Char) : Option Char :=
  match c with
  | 'b' => some '\x08'
  | 'f' => some '\x0c'
  | 'n' => some '\n'
  | 'r' => some '\r'
  | 't' => some '\t'
  | '\\' => some '\\'
  | '"' => some '"'
  | _ => none

def characterCode (count : Nat) : Scan Char := do
  let rest ← get
  let digits := (rest.take count).takeWhile isHexDigit
  let value := numeral 16 digits
  if digits.length < count then Scan.fault
  else if value.isValidChar then do
    set (rest.drop count)
    return Char.ofNat value
  else Scan.refuse rest .outOfRange

/-- Read an escape from its backslash on. A letter that makes none is passed before it is refused. -/
def escaped : Scan Char := do
  match ← get with
  | '\\' :: c :: rest =>
    match escapeLetter? c with
    | some d =>
      set rest
      return d
    | none =>
      if c = 'u' then do
        set rest
        Scan.firmly ((characterCode 4).named .shortCode)
      else if c = 'U' then do
        set rest
        Scan.firmly ((characterCode 8).named .longCode)
      else do
        if c.toNat < 0x80 then set rest else Scan.skip
        Scan.firmly (Scan.named .escape (Scan.expecting
          (["b", "f", "n", "r", "t", "u", "U", "\\", "\""].map .sign) Scan.fault))
  | _ => Scan.fault

/-- Read the characters of a string on one line. `text` holds those before, the last one first. -/
def basicChars : Nat → (text : List Char) → Scan (List Char)
  | 0, text => return text.reverse
  | fuel + 1, text => do
    match ← Scan.head? with
    | none => return text.reverse
    | some c =>
      if isBasicChar c then do
        Scan.skip
        basicChars fuel (c :: text)
      else
        match ← Scan.optional escaped with
        | some d => basicChars fuel (d :: text)
        | none => return text.reverse

def basicString : Scan (List Char) := do
  Scan.skip
  let text ← basicChars ((← get).length + 1) []
  Scan.firmly ((Scan.exactly ['"']).named .basicString)
  return text

def literalString : Scan (List Char) :=
  Scan.named .literalString do
    Scan.skip
    let text ← Scan.takeWhile isLiteralChar
    Scan.firmly (Scan.exactly ['\''])
    return text

def dropWhiteSpace : List Char → List Char
  | [] => []
  | '\r' :: '\n' :: rest => dropWhiteSpace rest
  | c :: rest => if isSpaceOrTab c || c = '\n' then dropWhiteSpace rest else c :: rest

/-- A backslash at the end of a line, with all white space up to the next character. -/
def continuation : Scan Unit := do
  Scan.exactly ['\\']
  blanks
  newLine
  modify dropWhiteSpace

/-- One or two quotes that do not end the string, because something else follows. -/
def innerQuotes? (quote : Char) : List Char → Option (List Char × List Char)
  | a :: b :: c :: rest =>
    if a ≠ quote then none
    else if b ≠ quote then some ([a], b :: c :: rest)
    else if c ≠ quote then some ([a, b], c :: rest)
    else none
  | a :: b :: rest => if a = quote && b ≠ quote then some ([a], b :: rest) else none
  | _ => none

/-- One or two quotes directly before the three that end the string. -/
def finalQuotes (quote : Char) (rest : List Char) : List Char :=
  List.replicate (min 2 ((rest.takeWhile (· = quote)).length - 3)) quote

def passFinalQuotes (quote : Char) : Scan (List Char) := do
  let quotes := finalQuotes quote (← get)
  modify (List.drop quotes.length)
  return quotes

/-- One piece of a string over several lines. -/
def longBasicPiece : Scan (List Char) := do
  match ← get with
  | [] => Scan.fault
  | c :: rest =>
    if isBasicChar c then do
      set rest
      return [c]
    else if c = '\\' then
      match ← Scan.optional continuation with
      | some _ => return []
      | none => return [← escaped]
    else do
      newLine
      return ['\n']

/-- Read pieces, and quotes that a piece follows. Quotes before anything else are passed, and end the text. -/
def longChars (quote : Char) (piece : Scan (List Char)) : Nat → (text : List Char) → Scan (List Char)
  | 0, text => return text.reverse
  | fuel + 1, text => do
    match ← Scan.optional piece with
    | some cs => longChars quote piece fuel (cs.reverse ++ text)
    | none =>
      let rest ← get
      match innerQuotes? quote rest with
      | none => return text.reverse
      | some (quotes, next) =>
        set next
        match ← Scan.optional piece with
        | some cs => longChars quote piece fuel (cs.reverse ++ quotes ++ text)
        | none =>
          if quote = '\'' then set rest
          return text.reverse

def longString (quote : Char) (piece : Scan (List Char)) (construct : Construct) : Scan (List Char) :=
  Scan.named construct do
    modify (List.drop 3)
    let _ ← Scan.optional newLine
    Scan.firmly do
      let text ← longChars quote piece ((← get).length + 1) []
      let quotes ← passFinalQuotes quote
      Scan.exactly (List.replicate 3 quote)
      return text ++ quotes

def longLiteralPiece : Scan (List Char) := do
  match ← get with
  | [] => Scan.fault
  | c :: rest =>
    if isLiteralChar c then do
      set rest
      return [c]
    else do
      newLine
      return ['\n']

/-- Read a string from its first quote on. -/
def string : Scan (List Char) := do
  if ← Scan.isAt "\"\"\"".toList then longString '"' longBasicPiece .longBasicString
  else if ← Scan.isAt "'''".toList then longString '\'' longLiteralPiece .longLiteralString
  else if (← Scan.head?) = some '"' then basicString
  else literalString

end Frontmark.Toml
