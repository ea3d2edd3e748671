import Frontmark.Html.Tag

/-! HTML in a line of text: tags, comments, instructions, declarations and character data. Each
recogniser gives the text after the construct. -/

set_option autoImplicit false

namespace Frontmark.Html

open Frontmark.Text

/-- A comment from its second pair of hyphens on. Hyphens are taken up to three at a time, so a run of
them ends the comment only if two are left over before the angle bracket. -/
def commentEnd? : List Char → Option (List Char)
  | [] => none
  | '-' :: '-' :: '>' :: rest => some rest
  | '-' :: '-' :: _ :: rest => commentEnd? rest
  | '-' :: '-' :: [] => none
  | '-' :: _ :: rest => commentEnd? rest
  | '-' :: [] => none
  | _ :: rest => commentEnd? rest

/-- Brackets are taken up to three at a time, as hyphens are in a comment. -/
def characterDataEnd? : List Char → Option (List Char)
  | [] => none
  | ']' :: ']' :: '>' :: rest => some rest
  | ']' :: ']' :: _ :: rest => characterDataEnd? rest
  | ']' :: ']' :: [] => none
  | ']' :: _ :: rest => characterDataEnd? rest
  | ']' :: [] => none
  | _ :: rest => characterDataEnd? rest

/-- Question marks are taken in pairs. -/
def instructionEnd? : List Char → Option (List Char)
  | [] => none
  | '?' :: '>' :: rest => some rest
  | '?' :: _ :: rest => instructionEnd? rest
  | '?' :: [] => none
  | _ :: rest => instructionEnd? rest

/-- A declaration has a name in capital letters and white space after it. -/
def declarationBody? (text : List Char) : Option (List Char) :=
  let rest := text.dropWhile isCapital
  if rest.length < text.length && (rest.head?.any isGap) then some rest else none

def declarationEnd? (body : List Char) : Option (List Char) :=
  match body.dropWhile (· ≠ '>') with
  | [] => none
  | _ :: rest => some rest

/-- Constructs that are looked through up to a mark that ends them. -/
inductive Construct where
  | comment
  | characterData
  | declaration
  | instruction
  deriving DecidableEq, Repr

/-- What an angle bracket turns out to be: the start of something, before the text that is given, of a
construct that the text does not end, or of nothing. -/
inductive Found where
  | whole (rest : List Char)
  | endless (c : Construct)
  | nothing
  deriving DecidableEq, Repr

/-- What a search for the end of a construct says about its start. -/
def Found.ofSearch (c : Construct) : Option (List Char) → Found
  | some rest => .whole rest
  | none => .endless c

def Found.ofTag : Option (List Char) → Found
  | some rest => .whole rest
  | none => .nothing

/-- What stands after an angle bracket. The constructs of `endless` are not looked for, as it is known
that they do not end; and if comments do not, nothing is that starts with an exclamation mark. -/
def inline (endless : List Construct) (text : List Char) : Found :=
  let search (c : Construct) (find : Unit → Option (List Char)) : Found :=
    if endless.contains c then .nothing else .ofSearch c (find ())
  match text with
  | '!' :: rest =>
    if endless.contains .comment then .nothing
    else
      match rest with
      | '-' :: '-' :: '>' :: rest | '-' :: '-' :: '-' :: '>' :: rest => .whole rest
      | '-' :: '-' :: rest => .ofSearch .comment (commentEnd? rest)
      | '[' :: rest =>
        if startsWithWord "cdata[".toList rest then
          search .characterData fun _ => characterDataEnd? (rest.drop 6)
        else .nothing
      | rest =>
        match declarationBody? rest with
        | some body => search .declaration fun _ => declarationEnd? body
        | none => .nothing
  | '?' :: rest => search .instruction fun _ => instructionEnd? rest
  | text => .ofTag (tag? text)

end Frontmark.Html
