import Frontmark.Html.Tag
import Frontmark.Markup.Value

/-! The first characters by which blocks are recognised.

Each recogniser looks at a line from its first character that is no white space; the line break at its
end is part of the text. -/

set_option autoImplicit false

namespace Frontmark.Block

open Frontmark.Text
open Frontmark.Markup (Delimiter ListStyle)

/-- Only white space up to the end of the line. -/
def endsHere (text : List Char) : Bool :=
  match text.dropWhile isSpaceOrTab with
  | '\n' :: _ => true
  | _ => false

/-- Level of a heading, and how many characters its opening takes, white space included. -/
def heading? (text : List Char) : Option (Nat × Nat) :=
  let level := (text.takeWhile (· = '#')).length
  let rest := text.drop level
  if level = 0 || 6 < level then none
  else
    match rest with
    | '\n' :: _ => some (level, level + 1)
    | _ =>
      let spaces := (rest.takeWhile isSpaceOrTab).length
      if spaces = 0 then none else some (level, level + spaces)

/-- The heading's text without closing number signs. White space has to precede those, and it does
when nothing else is left of the text. -/
def headingText (rest : List Char) : List Char :=
  let text := dropSpacesEnd rest
  let before := (text.reverse.dropWhile (· = '#')).reverse
  if before.length = text.length then text
  else if (before.getLast?.all isSpaceOrTab) then dropSpacesEnd before
  else text

/-- Mark and length of a code fence. The line of a fence of backticks has no other backticks. -/
def fence? (text : List Char) : Option (Char × Nat) :=
  match text with
  | [] => none
  | c :: _ =>
    let length := (text.takeWhile (· = c)).length
    if (c = '\x60' || c = '~') && 3 ≤ length && !(c = '\x60' && (text.drop length).contains '\x60') then
      some (c, length)
    else none

def closesFence (mark : Char) (length : Nat) (text : List Char) : Bool :=
  let run := text.takeWhile (· = mark)
  length ≤ run.length && endsHere (text.drop run.length)

/-- What an HTML block starts with, by which it is known where it ends. -/
inductive Html where
  | rawText
  | comment
  | instruction
  | declaration
  | characterData
  | block
  | complete
  deriving DecidableEq, Repr

def rawTextNames : List (List Char) :=
  ["script", "pre", "textarea", "style"].map String.toList

def blockNames : List (List Char) :=
  ["address", "article", "aside", "base", "basefont", "blockquote", "body", "caption", "center", "col",
    "colgroup", "dd", "details", "dialog", "dir", "div", "dl", "dt", "fieldset", "figcaption", "figure",
    "footer", "form", "frame", "frameset", "h1", "h2", "h3", "h4", "h5", "h6", "head", "header", "hr",
    "html", "iframe", "legend", "li", "link", "main", "menu", "menuitem", "nav", "noframes", "ol",
    "optgroup", "option", "p", "param", "search", "section", "summary", "table", "tbody", "td", "tfoot",
    "th", "thead", "title", "tr", "track", "ul"].map String.toList

/-- The text after a name, any letter case, with which the text begins and which ends there. -/
def afterName? (names : List (List Char)) (text : List Char) : Option (List Char) :=
  let name := text.takeWhile isAlphanumeric
  if names.contains (name.map lower) then some (text.drop name.length) else none

def startsRawText (text : List Char) : Bool :=
  match afterName? rawTextNames text with
  | some (c :: _) => isGap c || c = '>'
  | _ => false

def startsBlockTag (text : List Char) : Bool :=
  match afterName? blockNames (if text.head? = some '/' then text.tail else text) with
  | some ('/' :: '>' :: _) => true
  | some (c :: _) => isGap c || c = '>'
  | _ => false

/-- A line that holds one tag and nothing else. -/
def isCompleteTag (text : List Char) : Bool :=
  match Html.tag? text with
  | none => false
  | some rest =>
    match rest.dropWhile (fun c => isSpaceOrTab c || c = '\x0c') with
    | '\n' :: _ => true
    | _ => false

/-- A lone tag starts a block only where no paragraph would be interrupted. -/
def html? (inParagraph : Bool) : List Char → Option Html
  | '<' :: text =>
    if startsRawText text then some .rawText
    else if startsWithWord "!--".toList text then some .comment
    else if startsWithWord "?".toList text then some .instruction
    else if startsWithWord "![cdata[".toList text then some .characterData
    else if text.head? = some '!' && (text.tail.head?.any isCapital) then some .declaration
    else if startsBlockTag text then some .block
    else if !inParagraph && isCompleteTag text then some .complete
    else none
  | _ => none

/-- Whether the text has `word` somewhere; case is ignored. -/
def hasWord (word : List Char) : List Char → Bool
  | [] => startsWithWord word []
  | c :: text => startsWithWord word (c :: text) || hasWord word text

/-- Whether a line ends the block that it belongs to. -/
def Html.endsAt (h : Html) (text : List Char) : Bool :=
  match h with
  | .rawText => rawTextNames.any fun name => hasWord ('<' :: '/' :: name ++ ['>']) text
  | .comment => hasWord "-->".toList text
  | .instruction => hasWord "?>".toList text
  | .declaration => hasWord ">".toList text
  | .characterData => hasWord "]]>".toList text
  | .block | .complete => false

/-- Level of the heading that a line of equals signs or hyphens makes of a paragraph. -/
def underline? (text : List Char) : Option Nat :=
  match text with
  | '=' :: _ => if endsHere (text.dropWhile (· = '=')) then some 1 else none
  | '-' :: _ => if endsHere (text.dropWhile (· = '-')) then some 2 else none
  | _ => none

def isThematicBreak (text : List Char) : Bool :=
  let marks := text.filter fun c => !(isSpaceOrTab c || c = '\n')
  match marks with
  | [] => false
  | mark :: _ => (mark = '*' || mark = '_' || mark = '-') && 3 ≤ marks.length && marks.all (· = mark)

/-- The label of a footnote definition, and how many characters its opening takes. -/
def footnote? : List Char → Option (List Char × Nat)
  | '[' :: '^' :: text =>
    let label := text.takeWhile fun c => !(c = ']' || c = ' ' || c = '\n' || c = '\t')
    match text.drop label.length with
    | ']' :: ':' :: rest =>
      if label.isEmpty then none
      else some (label, label.length + 4 + (rest.takeWhile isSpaceOrTab).length)
    | _ => none
  | _ => none

/-- What the items of one list have in common, and the number of the first. -/
structure Marker where
  bullet : Option Char
  delimiter : Delimiter
  start : Nat
  deriving DecidableEq, Repr

def Marker.style (m : Marker) : ListStyle :=
  { ordered := m.bullet.isNone, delimiter := m.delimiter, start := m.start }

def Marker.continues (m other : Marker) : Bool :=
  m.bullet = other.bullet && m.delimiter = other.delimiter

def longestNumber : Nat := 9

/-- After its sign, a marker needs white space; to interrupt a paragraph, also text. -/
def markerEnds (inParagraph : Bool) (rest : List Char) : Bool :=
  (rest.head?.any isSpace) && !(inParagraph && endsHere rest)

/-- A list marker and its length. Only a list that starts with one can interrupt a paragraph. -/
def marker? (inParagraph : Bool) (text : List Char) : Option (Marker × Nat) :=
  match text with
  | [] => none
  | c :: rest =>
    if c = '*' || c = '-' || c = '+' then
      if markerEnds inParagraph rest then some (⟨some c, .period, 1⟩, 1) else none
    else
      let digits := (text.takeWhile isDigit).take longestNumber
      let start := numeral 10 digits
      match text.drop digits.length with
      | d :: rest =>
        if digits.isEmpty || (inParagraph && start ≠ 1) || !(d = '.' || d = ')') then none
        else if markerEnds inParagraph rest then
          some (⟨none, if d = '.' then .period else .paren, start⟩, digits.length + 1)
        else none
      | [] => none

end Frontmark.Block
