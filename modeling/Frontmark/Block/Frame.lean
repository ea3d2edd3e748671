import Frontmark.Block.Start
import Frontmark.Link.Reference
import Frontmark.Markup.RoseTree
import Frontmark.Text.Entity

/-! Blocks while they are open, and what is left of them when they are closed. -/

set_option autoImplicit false

namespace Frontmark.Block

open Frontmark.Text
open Frontmark.Markup (RoseTree Value)
open Frontmark.Link (References)

inductive Block where
  | document
  | blockQuote
  | list (marker : Marker)
  /-- `width` is the indentation that a line needs to belong to the item. -/
  | item (marker : Marker) (width : Nat)
  | footnote (label : String)
  | paragraph
  | heading (level : Nat) (setext : Bool)
  /-- Lines lose up to `indent` characters of white space. -/
  | fencedCode (mark : Char) (length indent : Nat)
  | indentedCode
  | html (start : Html)
  | thematicBreak
  /-- `added` is how many cells have been added to short rows. -/
  | table (columns added : Nat)
  | tableRow
  deriving DecidableEq, Repr

namespace Block

/-- Whether lines of text are added to the block itself. -/
def acceptsLines : Block → Bool
  | paragraph | heading .. | fencedCode .. | indentedCode => true
  | _ => false

/-- Whether no block can start inside. -/
def isVerbatim : Block → Bool
  | fencedCode .. | indentedCode | html _ => true
  | _ => false

def canHold (outer inner : Block) : Bool :=
  match outer, inner with
  | document, item .. | blockQuote, item .. | item .., item .. | footnote _, item .. => false
  | document, tableRow | blockQuote, tableRow | item .., tableRow | footnote _, tableRow => false
  | document, _ | blockQuote, _ | item .., _ | footnote _, _ => true
  | list _, item .. => true
  | table .., tableRow => true
  | _, _ => false

end Block

/-- A block whose inline text is not read yet. -/
structure Part where
  value : Value
  source : List Char := []

abbrev Draft := RoseTree Part

/-- An open block: its closed children and its own lines, the latest first. -/
structure Frame where
  block : Block
  children : List Draft := []
  lines : List (List Char) := []
  /-- Whether a line has turned out not to make a table of this paragraph. -/
  noTable : Bool := false

namespace Frame

def content (f : Frame) : List Char :=
  f.lines.reverse.flatten

def addLine (f : Frame) (line : List Char) : Frame :=
  if line.isEmpty then f else { f with lines := line :: f.lines }

end Frame

/-- Whether the first line of a text has nothing but white space. -/
def isBlankText (text : List Char) : Bool :=
  match text.dropWhile isSpaceOrTab with
  | [] | '\n' :: _ => true
  | _ => false

/-- Indented code without blank lines at its end. -/
def codeText (content : List Char) : List Char :=
  let tail := content.reverse.dropWhile fun c => isSpaceOrTab c || c = '\n'
  let spaces := (content.drop tail.length).takeWhile (· ≠ '\n')
  tail.reverse ++ spaces ++ ['\n']

/-- The info string after a fence. -/
def infoText (line : List Char) : List Char :=
  dropEscapes (strip (decodeEntities line))

/-- Close a block. A paragraph made of link reference definitions alone leaves nothing behind. -/
def Frame.close (refs : References) (f : Frame) : References × Option Draft :=
  let leaf (value : Value) (source : List Char) : Draft := .node ⟨value, source⟩ f.children.reverse
  match f.block with
  | .paragraph =>
    let content := f.content
    let (refs, rest) := Link.takeDefinitions refs content.length content
    (refs, if isBlankText rest then none else some (leaf .paragraph rest))
  | .heading level setext => (refs, some (leaf (.heading level setext) f.content))
  | .fencedCode .. =>
    let content := f.content
    let info := infoText (content.takeWhile (· ≠ '\n'))
    let code := (content.dropWhile (· ≠ '\n')).drop 1
    (refs, some (leaf (.codeBlock (String.ofList info) (String.ofList code) true) []))
  | .indentedCode => (refs, some (leaf (.codeBlock "" (String.ofList (codeText f.content)) false) []))
  | .html _ => (refs, some (leaf (.htmlBlock (String.ofList f.content)) []))
  | .document => (refs, some (leaf .document []))
  | .blockQuote => (refs, some (leaf .blockQuote []))
  | .list marker => (refs, some (leaf (.list marker.style) []))
  | .item marker _ => (refs, some (leaf (.item marker.style) []))
  | .footnote label => (refs, some (leaf (.extension (.footnoteDefinition label)) []))
  | .thematicBreak => (refs, some (leaf .thematicBreak []))
  | .table .. => (refs, some (leaf (.extension .table) []))
  | .tableRow => (refs, some (leaf (.extension .tableRow) []))

end Frontmark.Block
