import Frontmark.Text.Ascii
import Frontmark.Text.EntityName

/-! Character references, by number or by name. -/

set_option autoImplicit false

namespace Frontmark.Text

/-- The character of a numeric reference. Zero, surrogates and numbers beyond the last code point
stand for the replacement character. -/
def charOfReference (code : Nat) : Char :=
  if code = 0 || (0xD800 ≤ code && code ≤ 0xE000) || 0x110000 ≤ code then '\ufffd' else Char.ofNat code

def mostDigits : Nat := 7

/-- A number and the semicolon that ends it. -/
def numericReference? (isDigit : Char → Bool) (base : Nat) (text : List Char) :
    Option (List Char × List Char) :=
  let digits := text.takeWhile isDigit
  match text.dropWhile isDigit with
  | ';' :: rest =>
    if 1 ≤ digits.length && digits.length ≤ mostDigits then
      some ([charOfReference (numeral base digits)], rest)
    else none
  | _ => none

def longestEntityName : Nat := 31

def namedReference? (text : List Char) : Option (List Char × List Char) :=
  let name := text.takeWhile isAlphanumeric
  match text.dropWhile isAlphanumeric with
  | ';' :: rest =>
    if name.length ≤ longestEntityName then
      (entityNames.find? (·.1 = String.ofList name)).map fun (_, image) => (image.toList, rest)
    else none
  | _ => none

/-- The characters that a reference stands for, and the text after it; the ampersand is passed already. -/
def entity? : List Char → Option (List Char × List Char)
  | '#' :: 'x' :: text | '#' :: 'X' :: text => numericReference? isHexDigit 16 text
  | '#' :: text => numericReference? isDigit 10 text
  | text => namedReference? text

/-- Replace references. A reference is at least two characters long, so `limit` steps suffice for a
text of that length. -/
def resolveEntities : (limit : Nat) → List Char → List Char
  | 0, text => text
  | _, [] => []
  | limit + 1, c :: text =>
    if c = '&' then
      match entity? text with
      | some (image, rest) => image ++ resolveEntities limit rest
      | none => c :: resolveEntities limit text
    else c :: resolveEntities limit text

def decodeEntities (text : List Char) : List Char :=
  resolveEntities text.length text

/-- Drop the backslash before each mark that it escapes. -/
def dropEscapes : List Char → List Char
  | [] => []
  | '\\' :: c :: text => if isMark c then c :: dropEscapes text else '\\' :: dropEscapes (c :: text)
  | c :: text => c :: dropEscapes text

end Frontmark.Text
