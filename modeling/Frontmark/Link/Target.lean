import Frontmark.Text.Entity

/-! Destinations and titles of links. Each recogniser gives what it has found and the text after it. -/

set_option autoImplicit false

namespace Frontmark.Link

open Frontmark.Text

/-- The inside of a destination in angle brackets. `found` holds it last character first. -/
def angleDestination? : (found : List Char) → List Char → Option (List Char × List Char)
  | _, [] => none
  | found, '>' :: rest => if rest.isEmpty then none else some (found.reverse, rest)
  | _, '\n' :: _ => none
  | _, '<' :: _ => none
  | found, '\\' :: c :: text => angleDestination? (c :: '\\' :: found) text
  | found, c :: text => angleDestination? (c :: found) text

def deepestParentheses : Nat := 32

/-- A destination without brackets: it ends before a space or control, or before a parenthesis that
it has not opened itself. -/
def bareDestination? : (found : List Char) → (depth : Nat) → List Char → Option (List Char × List Char)
  | _, _, [] => none
  | found, depth, c :: text =>
    let stop := if depth = 0 then some (found.reverse, c :: text) else none
    if c = '\\' then
      match text with
      | [] => none
      | d :: rest =>
        if isMark d then bareDestination? (d :: c :: found) depth rest
        else bareDestination? (c :: found) depth (d :: rest)
    else if c = '(' then
      if depth < deepestParentheses then bareDestination? (c :: found) (depth + 1) text else none
    else if c = ')' then
      if depth = 0 then stop else bareDestination? (c :: found) (depth - 1) text
    else if isSpace c || isControl c then if found.isEmpty then none else stop
    else bareDestination? (c :: found) depth text

def destination? : List Char → Option (List Char × List Char)
  | '<' :: text => angleDestination? [] text
  | text => bareDestination? [] 0 text

/-- A destination as it is meant: references resolved, escapes dropped. -/
def cleanDestination (raw : List Char) : String :=
  String.ofList (dropEscapes (decodeEntities (strip raw)))

/-- The inside of a title that ends with `close`. A `close` after a backslash ends the title only if
no later one does; `latest` is the end found last. Where parentheses enclose the title, an opening
one must be escaped. -/
def titleUntil? (close : Char) (latest : Option (List Char × List Char)) :
    (found : List Char) → List Char → Option (List Char × List Char)
  | _, [] => latest
  | found, c :: text =>
    let escaped := found.head? = some '\\'
    if c = close then
      if escaped then titleUntil? close (some (found.reverse, text)) (c :: found) text
      else some (found.reverse, text)
    else if c = '(' && close = ')' && !escaped then latest
    else titleUntil? close latest (c :: found) text

def title? : List Char → Option (List Char × List Char)
  | '"' :: text => titleUntil? '"' none [] text
  | '\'' :: text => titleUntil? '\'' none [] text
  | '(' :: text => titleUntil? ')' none [] text
  | _ => none

def cleanTitle (raw : List Char) : String :=
  String.ofList (dropEscapes (decodeEntities raw))

end Frontmark.Link
