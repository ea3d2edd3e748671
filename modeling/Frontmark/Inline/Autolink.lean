import Frontmark.Inline.Run
import Frontmark.Text.Entity

/-! Addresses that are links by themselves: in angle brackets, or, as an extension, bare. -/

set_option autoImplicit false

namespace Frontmark.Inline

open Frontmark.Text
open Frontmark.Markup (RoseTree Value)

def linkTo (url text : List Char) : RoseTree Value :=
  .node (.link (String.ofList url) "") [textTree text]

def mailto : List Char :=
  "mailto:".toList

/-- An absolute address up to the closing bracket, and the text after that. -/
def bracketedUrl? (text : List Char) : Option (List Char × List Char) :=
  let isSchemeChar (c : Char) := isAlphanumeric c || c = '+' || c = '.' || c = '-'
  let scheme := text.takeWhile isSchemeChar
  let isUrlChar (c : Char) := !(c.toNat ≤ 32 || c = '<' || c = '>')
  if (scheme.head?.any isLetter) && 2 ≤ scheme.length && scheme.length ≤ 32 then
    match text.drop scheme.length with
    | ':' :: rest =>
      match rest.dropWhile isUrlChar with
      | '>' :: after => some (text.take (text.length - after.length - 1), after)
      | _ => none
    | _ => none
  else none

def isMailboxChar (c : Char) : Bool :=
  isAlphanumeric c || ".!#$%&'*+/=?^_\x60\x7b|\x7d~-".toList.contains c

/-- A part of a domain name: at most 63 letters, digits and hyphens, no hyphen at an end. -/
def isDomainPart (part : List Char) : Bool :=
  1 ≤ part.length && part.length ≤ 63 && part.head? ≠ some '-' && part.getLast? ≠ some '-'

def domainParts : (limit : Nat) → List Char → Option (List Char)
  | 0, _ => none
  | limit + 1, text =>
    let part := text.takeWhile fun c => isAlphanumeric c || c = '-'
    if !isDomainPart part then none
    else
      match text.drop part.length with
      | '.' :: rest => domainParts limit rest
      | rest => some rest

/-- A mail address up to the closing bracket, and the text after that. -/
def bracketedMail? (text : List Char) : Option (List Char × List Char) :=
  let mailbox := text.takeWhile isMailboxChar
  if mailbox.isEmpty then none
  else
    match text.drop mailbox.length with
    | '@' :: rest =>
      match domainParts rest.length rest with
      | some ('>' :: after) => some (text.take (text.length - after.length - 1), after)
      | _ => none
    | _ => none

/-- A link in angle brackets, the first of them being passed already, and the text after it. -/
def bracketedLink? (text : List Char) : Option (RoseTree Value × List Char) :=
  match bracketedUrl? text with
  | some (url, rest) =>
    let url := decodeEntities url
    some (linkTo url url, rest)
  | none =>
    (bracketedMail? text).map fun (address, rest) =>
      let address := decodeEntities address
      (linkTo (mailto ++ address) address, rest)

def isHostChar (c : Char) : Bool :=
  !(isBlank c || isPunctuation c)

/-- Length of the host name that the text starts with. The last two parts have no underscores. Unless
`short` names are allowed, there has to be a period. -/
structure Host where
  length : Nat := 0
  periods : Nat := 0
  beforeLast : Nat := 0
  last : Nat := 0

def hostLength? (short : Bool) : Host → List Char → Option Nat
  | h, [] =>
    if (0 < h.beforeLast || 0 < h.last) && h.periods ≤ 10 then none
    else if short || 0 < h.periods then some h.length
    else none
  | h, c :: text =>
    if c = '\\' && !text.isEmpty then hostLength? short { h with length := h.length + 1 } text
    else if c = '_' then hostLength? short { h with length := h.length + 1, last := h.last + 1 } text
    else if c = '.' then
      hostLength? short ⟨h.length + 1, h.periods + 1, h.last, 0⟩ text
    else if isHostChar c || c = '-' then hostLength? short { h with length := h.length + 1 } text
    else if h.beforeLast = 0 && h.last = 0 && (short || 0 < h.periods) then some h.length
    else none

def isTrailingMark (c : Char) : Bool :=
  "?!.,:*_~'\"".toList.contains c

/-- Drop from the end of an address, given in reverse, what rather belongs to the sentence around it:
marks, entities, and closing parentheses that have no opening one. -/
def dropTrailing : (limit : Nat) → (reversed : List Char) → List Char
  | 0, reversed => reversed
  | _, [] => []
  | limit + 1, c :: before =>
    if isTrailingMark c then dropTrailing limit before
    else if c = ';' then
      let name := before.takeWhile isLetter
      match before.drop name.length with
      | '&' :: rest => dropTrailing limit (if name.isEmpty then before else rest)
      | _ => dropTrailing limit before
    else if c = ')' then
      if before.count '(' ≤ before.count ')' then dropTrailing limit before else c :: before
    else c :: before

/-- The address that the text starts with; a less-than sign ends it. -/
def trimAddress (text : List Char) : List Char :=
  let address := text.takeWhile (· ≠ '<')
  (dropTrailing address.length address.reverse).reverse

def schemes : List (List Char) :=
  ["http".toList, "https".toList, "ftp".toList]

/-- How many characters before a colon belong to the address, the part from the colon on, and the link.
`before` is the text before the colon, reversed; `text` starts with the colon. -/
structure Bare where
  back : Nat
  address : List Char
  link : RoseTree Value

def spaceless (text : List Char) : List Char :=
  text.takeWhile fun c => !isSpace c

def bareUrl? (before text : List Char) : Option Bare :=
  match text with
  | ':' :: '/' :: '/' :: host =>
    let scheme := (before.takeWhile isLetter).reverse
    if host.isEmpty || !schemes.contains scheme then none
    else
      (hostLength? true {} host).map fun length =>
        let address := trimAddress (text.take length ++ spaceless (text.drop length))
        ⟨scheme.length, address, linkTo (scheme ++ address) (scheme ++ address)⟩
  | _ => none

def bareHost? (before text : List Char) : Option Bare :=
  let free := before.head?.all fun c => isSpace c || "*_~([".toList.contains c
  if free && "www.".toList.isPrefixOf text then
    (hostLength? false {} text).map fun length =>
      let address := trimAddress (text.take length ++ spaceless (text.drop length))
      ⟨0, address, linkTo ("http://".toList ++ address) address⟩
  else none

end Frontmark.Inline
