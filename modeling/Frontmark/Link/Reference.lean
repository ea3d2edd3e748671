import Frontmark.Link.Label
import Frontmark.Link.Target

/-! Link reference definitions. -/

set_option autoImplicit false

namespace Frontmark.Link

open Frontmark.Text

structure Reference where
  url : String
  title : String
  deriving DecidableEq, Repr

def Reference.bytes (r : Reference) : Nat :=
  r.url.utf8ByteSize + r.title.utf8ByteSize

/-- Definitions by normalised label. -/
abbrev References := List (String × Reference)

/-- Of several definitions of a label the first one counts. -/
def References.define (refs : References) (label : String) (r : Reference) : References :=
  if label.isEmpty || refs.any (·.1 = label) then refs else refs ++ [(label, r)]

def References.find? (refs : References) (label : String) : Option Reference :=
  refs.lookup label

/-- The text after spaces and at most one line break. -/
def skipBreak (text : List Char) : List Char :=
  match text.dropWhile isSpaceOrTab with
  | '\n' :: rest => rest.dropWhile isSpaceOrTab
  | rest => rest

/-- The text after the end of a line on which only spaces are left. -/
def endOfLine? (text : List Char) : Option (List Char) :=
  match text.dropWhile isSpaceOrTab with
  | [] => some []
  | '\n' :: rest => some rest
  | _ => none

/-- A title set off by a space, and the text after it. -/
def spacedTitle? (text : List Char) : Option (List Char × List Char) :=
  let rest := skipBreak text
  if rest.length = text.length then none else title? rest

/-- The title, if there is one, and the text after the definition. A definition ends before a title that
is followed by more text on its line, but keeps it. -/
def titleAndEnd? (text : List Char) : Option (List Char × List Char) :=
  match spacedTitle? text with
  | none => (endOfLine? text).map (([], ·))
  | some (title, rest) => ((endOfLine? rest).or (endOfLine? text)).map ((title, ·))

/-- One definition at the start of a paragraph: its label, its target and the text after it. -/
def definition? (text : List Char) : Option (List Char × Reference × List Char) :=
  match label? text with
  | some (label, ':' :: rest) =>
    if label.isEmpty then none
    else
      (destination? (skipBreak rest)).bind fun (url, rest) =>
        (titleAndEnd? rest).map fun (title, rest) => (label, ⟨cleanDestination url, cleanTitle title⟩, rest)
  | _ => none

/-- Take the definitions off the start of a paragraph. Each takes at least one character, so `limit`
steps suffice for a text of that length. -/
def takeDefinitions (refs : References) : (limit : Nat) → List Char → References × List Char
  | 0, text => (refs, text)
  | limit + 1, text =>
    match definition? text with
    | none => (refs, text)
    | some (label, target, rest) => takeDefinitions (refs.define (normalize label) target) limit rest

end Frontmark.Link
