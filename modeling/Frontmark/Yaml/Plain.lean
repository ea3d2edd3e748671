import Frontmark.Yaml.Gap

/-! Scalars without quotes. -/

set_option autoImplicit false

namespace Frontmark.Yaml.Plain

open Frontmark.Text

def isFlowMark (c : Char) : Bool :=
  c = ',' || c = '[' || c = ']' || c = '\x7b' || c = '\x7d'

/-- Whether a scalar can begin here: not with an indicator, unless it is a hyphen, a question mark or a
colon that something follows. -/
def canStart (inFlow : Bool) : List Char → Bool
  | [] => false
  | c :: rest =>
    if c = '-' then !(rest.head?.any isSpaceOrTab)
    else if c = '?' || c = ':' then !inFlow && !isSeparated rest
    else !(isSpaceOrTab c || isBreak c || isFlowMark c || "#&*!|>'\"%@\x60".toList.contains c)

inductive Stop where
  | here
  /-- A colon that stands directly before an indicator. -/
  | colon

/-- The characters up to the next blank or indicator. -/
def word (inFlow : Bool) : List Char → List Char × Stop
  | [] => ([], .here)
  | c :: rest =>
    if isSpaceOrTab c || isBreak c then ([], .here)
    else if inFlow && c = ':' && rest.head?.any (fun d => isFlowMark d || d = '?') then ([], .colon)
    else if (c = ':' && isSeparated rest) || (inFlow && isFlowMark c) then ([], .here)
    else
      let (w, stop) := word inFlow rest
      (c :: w, stop)

structure Outcome where
  text : List Char
  /-- Whether line breaks follow that are not part of the scalar. -/
  broken : Bool
  next : Cursor

/-- Read words and the gaps between them. `text` is what has been read, last character first. -/
def readWords (inFlow : Bool) (start : Mark) (indent : Nat) :
    Nat → (text : List Char) → Gap → Cursor → Except Malformed Outcome
  | 0, text, gap, c => .ok ⟨text.reverse, gap.broken, c⟩
  | fuel + 1, text, gap, c =>
    if c.isDocumentLine || c.head? = some '#' then .ok ⟨text.reverse, gap.broken, c⟩
    else
      let (w, stop) := word inFlow c.rest
      let next := c.skipMany w.length
      match stop with
      | .colon => fail .plainScalar start .colonInFlow next
      | .here =>
        if w.isEmpty then .ok ⟨text.reverse, gap.broken, next⟩
        else do
          let text := w.reverse ++ gap.text.reverse ++ text
          let (gap, after) ← Gap.read start indent next.rest.length {} next
          if !inFlow && after.column < indent then return ⟨text.reverse, gap.broken, after⟩
          else readWords inFlow start indent fuel text gap after

def read (inFlow : Bool) (indent : Nat) (c : Cursor) : Except Malformed Outcome :=
  readWords inFlow c.mark indent (c.rest.length + 1) [] {} c

end Frontmark.Yaml.Plain
