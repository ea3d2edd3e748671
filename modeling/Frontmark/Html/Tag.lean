import Frontmark.Text.Ascii

/-! Tags of HTML as they may stand in a document. Each recogniser gives the text after what it has
recognised at the start. -/

set_option autoImplicit false

namespace Frontmark.Html

open Frontmark.Text

def isNameChar (c : Char) : Bool :=
  isAlphanumeric c || c = '-'

def tagName? : List Char → Option (List Char)
  | [] => none
  | c :: text => if isLetter c then some (text.dropWhile isNameChar) else none

def isAttributeStart (c : Char) : Bool :=
  isLetter c || c = '_' || c = ':'

def isAttributeChar (c : Char) : Bool :=
  isAlphanumeric c || c = ':' || c = '.' || c = '_' || c = '-'

def isUnquoted (c : Char) : Bool :=
  !(isGap c || c = '"' || c = '\'' || c = '=' || c = '<' || c = '>' || c = '\x60')

def attributeValue? : List Char → Option (List Char)
  | [] => none
  | c :: text =>
    if c = '"' || c = '\'' then
      match text.dropWhile (· ≠ c) with
      | [] => none
      | _ :: rest => some rest
    else if isUnquoted c then some (text.dropWhile isUnquoted)
    else none

/-- Skip an equals sign and a value, if they follow. -/
def skipValue (text : List Char) : List Char :=
  match dropGaps text with
  | '=' :: rest => (attributeValue? (dropGaps rest)).getD text
  | _ => text

/-- Skip attributes, each of them after a space. -/
def skipAttributes : (limit : Nat) → List Char → List Char
  | 0, text => text
  | limit + 1, text =>
    match dropGaps text with
    | [] => text
    | c :: rest =>
      if (text.head?.any isGap) && isAttributeStart c then
        skipAttributes limit (skipValue (rest.dropWhile isAttributeChar))
      else text

def openTag? (text : List Char) : Option (List Char) :=
  (tagName? text).bind fun rest =>
    match dropGaps (skipAttributes rest.length rest) with
    | '/' :: '>' :: rest => some rest
    | '>' :: rest => some rest
    | _ => none

def closingTag? : List Char → Option (List Char)
  | '/' :: text =>
    (tagName? text).bind fun rest =>
      match dropGaps rest with
      | '>' :: rest => some rest
      | _ => none
  | _ => none

/-- An opening or closing tag, the angle bracket at its start being passed already. -/
def tag? (text : List Char) : Option (List Char) :=
  (openTag? text).or (closingTag? text)

end Frontmark.Html
