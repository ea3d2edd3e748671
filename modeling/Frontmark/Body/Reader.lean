import Frontmark.Block.Reader
import Frontmark.Body.Footnote
import Frontmark.Body.Tidy
import Frontmark.Inline.Reader

/-! Reading the body of a document: first its blocks, then the text in them, then what concerns the
document as a whole. -/

set_option autoImplicit false

namespace Frontmark.Body

open Frontmark.Block (Cursor Draft Part Reader)
open Frontmark.Inline (Context)
open Frontmark.Markup (RoseTree Value)

/-- The lines of a text, without what ends them: a line feed, a carriage return, or both in this order.
`line` is what has been read of the first line, in reverse. -/
def linesFrom (line : List Char) : List Char → List (List Char)
  | [] => if line.isEmpty then [] else [line.reverse]
  | '\r' :: '\n' :: text => line.reverse :: linesFrom [] text
  | c :: text => if c = '\r' || c = '\n' then line.reverse :: linesFrom [] text else linesFrom (c :: line) text

/-- Each line with one line feed at its end. The null character is replaced. -/
def lines (text : List Char) : List (List Char) :=
  (linesFrom [] (text.map fun c => if c.toNat = 0 then '\ufffd' else c)).map (· ++ ['\n'])

/-- A byte order mark at the start of the first line is passed over. -/
def firstCursor (line : List Char) : Cursor :=
  match line with
  | '\ufeff' :: rest => { rest }
  | _ => { rest := line }

def readBlocks (o : Options) (text : List Char) : Reader :=
  match lines text with
  | [] => {}
  | first :: others =>
    others.foldl (fun r line => r.readLine o { rest := line } line)
      (({} : Reader).readLine o (firstCursor first) first)

/-- The draft of the whole document, all blocks being closed, and its definitions. -/
def finish (r : Reader) : Draft × Link.References :=
  let closed := r.closeMany r.frames.length
  match closed.frames with
  | document :: _ =>
    let (refs, draft) := document.close closed.refs
    (draft.getD (.node ⟨.document, []⟩ []), refs)
  | [] => (.node ⟨.document, []⟩ [], closed.refs)

def holdsText : Value → Bool
  | .paragraph | .heading .. | .extension .tableCell => true
  | _ => false

mutual

/-- Read the text of every block, in the order in which the blocks stand. -/
def fill (ctx : Context) (quota : Nat) : Draft → RoseTree Value × Nat
  | .node part cs =>
    if holdsText part.value then
      let (children, quota) := Inline.read ctx quota part.source
      (.node part.value children, quota)
    else
      let (children, quota) := fillAmong ctx quota cs
      (.node part.value children, quota)

def fillAmong (ctx : Context) (quota : Nat) : List Draft → List (RoseTree Value) × Nat
  | [] => ([], quota)
  | t :: ts =>
    let (tree, quota) := fill ctx quota t
    let (trees, quota) := fillAmong ctx quota ts
    (tree :: trees, quota)

end

/-- How many bytes links may copy from their definitions. -/
def referenceQuota (text : List Char) : Nat :=
  max 100000 (Text.Utf8.size text)

def read (o : Options) (text : String) : RoseTree Value :=
  let chars := text.toList
  let (draft, refs) := finish (readBlocks o chars)
  let (tree, _) := fill ⟨o, refs⟩ (referenceQuota chars) draft
  tidy o (if o.footnotes then moveFootnotes tree else tree)

end Frontmark.Body
