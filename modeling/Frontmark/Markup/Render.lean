import Frontmark.Markup.Walker

/-! Writing a document tree as Markdown.

The output is a normal form: bullets are `*`, ordered items all carry the number one, headings start
with number signs. Each visit of a node contributes its own text and no state is carried between visits.
Every rendering also gives an account of itself. -/

set_option autoImplicit false

namespace Frontmark.Markup

def ListStyle.marker (style : ListStyle) : String :=
  if style.ordered then
    match style.delimiter with
    | .period => "1. "
    | .paren => "1) "
  else "* "

/-- The text of a node when it is entered. Extensions have none of their own. -/
def Value.entering? : Value → Option String
  | .document | .paragraph | .list _ | .image .. => some ""
  | .text literal => some literal
  | .softBreak | .lineBreak => some "\n"
  | .emph => some "*"
  | .strong => some "**"
  | .htmlInline _ => some "\x60"
  | .link .. => some "["
  | .code literal _ => some ("\x60" ++ literal ++ "\x60")
  | .blockQuote => some "> "
  | .item style => some style.marker
  | .heading level _ => some (String.ofList (List.replicate level '#') ++ " ")
  | .codeBlock info literal _ => some ("\x60\x60\x60 " ++ info ++ "\n" ++ literal ++ "\x60\x60\x60\n\n")
  | .htmlBlock literal => some literal
  | .thematicBreak => some "---\n\n"
  | .extension _ => none

/-- The text of a node when it is left again: only bracketing constructs and paragraphs close. -/
def Value.leaving? : Value → Option String
  | .paragraph => some "\n\n"
  | .link url _ => some ("](" ++ url ++ ")")
  | .strong => some "**"
  | .emph => some "*"
  | _ => none

def Visit.text (v : Visit) : String :=
  (if v.entering then v.value.entering? else v.value.leaving?).getD ""

mutual

/-- The text of a tree, by recursion on its shape. -/
def RoseTree.out : RoseTree Value → String
  | .node v cs =>
    v.entering?.getD "" ++
      if v.kind.opens (!cs.isEmpty) then RoseTree.outAll cs ++ v.leaving?.getD "" else ""

def RoseTree.outAll : List (RoseTree Value) → String
  | [] => ""
  | t :: ts => t.out ++ RoseTree.outAll ts

end

/-- The text without one line break at its end, if it has one. -/
def dropLineBreak (text : String) : String :=
  let chars := text.toList
  if chars.getLast? = some '\n' then String.ofList chars.dropLast else text

/-- What a run reports about itself. -/
inductive Report where
  | divided (hasHeader : Bool) (bodyBegin : Nat)
  | skipped (kind : Kind)
  | rendered (visits bytes : Nat)
  deriving DecidableEq, Repr

inductive Report.Level where
  | debug
  | trace
  deriving DecidableEq, Repr

namespace Report

def level : Report → Level
  | skipped _ => .trace
  | _ => .debug

def topic : Report → String
  | divided .. => "mdex::parse"
  | _ => "mdex::render"

def message : Report → String
  | divided .. => "split front matter"
  | skipped _ => "no handler, skipping"
  | rendered .. => "rendered document"

end Report

def Visit.report? (v : Visit) : Option Report :=
  if v.entering && v.value.entering?.isNone then some (.skipped v.kind) else none

/-- A text and the account of how it came about. -/
structure Rendering where
  text : String
  reports : List Report

def Forest.rendering (f : Forest) (root : Nat) : Rendering :=
  let visits := f.visits root
  let text := dropLineBreak (visits.foldl (fun text visit => text ++ visit.text) "")
  ⟨text, visits.filterMap Visit.report? ++ [.rendered visits.length text.utf8ByteSize]⟩

def Forest.render (f : Forest) (root : Nat) : String :=
  (f.rendering root).text

/-- The Markdown of a whole tree. -/
def render (t : RoseTree Value) : String :=
  (Forest.ofTree t).render 0

end Frontmark.Markup
