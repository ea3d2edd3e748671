import Frontmark.Text.Ascii
import Frontmark.Text.Blank
import Frontmark.Text.CaseFold
import Frontmark.Text.Utf8

/-! Link labels, and the normal form by which they are matched. -/

set_option autoImplicit false

namespace Frontmark.Link

open Frontmark.Text

def longestLabel : Nat := 1000

/-- The characters up to an unescaped bracket, and the text from it on. `label` holds those passed
so far, last one first. -/
def untilBracket : (label : List Char) → (text : List Char) → List Char × List Char
  | label, [] => (label.reverse, [])
  | label, '\\' :: c :: text =>
    if isMark c then untilBracket (c :: '\\' :: label) text else untilBracket ('\\' :: label) (c :: text)
  | label, c :: text =>
    if c = '[' || c = ']' then (label.reverse, c :: text) else untilBracket (c :: label) text

/-- A label in brackets: what stands between them, without the spaces at its ends, and the text after it. -/
def label? : List Char → Option (List Char × List Char)
  | '[' :: text =>
    match untilBracket [] text with
    | (label, ']' :: rest) => if Utf8.size label ≤ longestLabel then some (strip label, rest) else none
    | _ => none
  | _ => none

/-- Every run of blanks as one space. -/
def collapse : (afterBlank : Bool) → List Char → List Char
  | _, [] => []
  | afterBlank, c :: text =>
    if isBlank c then if afterBlank then collapse true text else ' ' :: collapse true text
    else c :: collapse false text

/-- The label with its spaces normalised, as it is shown. -/
def tidy (label : List Char) : List Char :=
  collapse false (strip label)

/-- The form in which labels are compared. -/
def normalize (label : List Char) : String :=
  String.ofList ((tidy label).flatMap foldCase)

end Frontmark.Link
