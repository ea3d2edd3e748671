/-! What a node of a document can be, and the kind it counts as.

CommonMark constructs have a kind of their own. All other constructs are extensions and share one. -/

set_option autoImplicit false

namespace Frontmark.Markup

inductive Delimiter where
  | period
  | paren
  deriving DecidableEq, Repr

structure ListStyle where
  ordered : Bool := false
  delimiter : Delimiter := .period
  start : Nat := 1
  tight : Bool := false
  deriving DecidableEq, Repr

inductive Extension where
  | strikethrough
  | superscript
  | table
  | tableRow
  | tableCell
  | taskItem (mark : Option Char)
  | footnoteDefinition (name : String)
  | footnoteReference (name : String)
  | frontMatter (literal : String)
  | math (literal : String)
  | wikiLink (url : String)
  | descriptionList
  | descriptionItem
  | descriptionTerm
  | descriptionDetails
  | multilineBlockQuote
  | escaped
  | escapedTag (literal : String)
  | underline
  | spoiler
  deriving DecidableEq, Repr

inductive Value where
  | document
  | blockQuote
  | list (style : ListStyle)
  | item (style : ListStyle)
  | paragraph
  | heading (level : Nat) (setext : Bool)
  | codeBlock (info literal : String) (fenced : Bool)
  | htmlBlock (literal : String)
  | thematicBreak
  | text (literal : String)
  | softBreak
  | lineBreak
  | code (literal : String) (backticks : Nat)
  | htmlInline (literal : String)
  | emph
  | strong
  | link (url title : String)
  | image (url title : String)
  | extension (construct : Extension)
  deriving DecidableEq, Repr

inductive Kind where
  | document
  | blockQuote
  | list
  | item
  | paragraph
  | heading
  | codeBlock
  | htmlBlock
  | thematicBreak
  | text
  | softBreak
  | lineBreak
  | code
  | htmlInline
  | emph
  | strong
  | link
  | image
  | other
  deriving DecidableEq, Repr

def Value.kind : Value → Kind
  | .document => .document
  | .blockQuote => .blockQuote
  | .list _ => .list
  | .item _ => .item
  | .paragraph => .paragraph
  | .heading .. => .heading
  | .codeBlock .. => .codeBlock
  | .htmlBlock _ => .htmlBlock
  | .thematicBreak => .thematicBreak
  | .text _ => .text
  | .softBreak => .softBreak
  | .lineBreak => .lineBreak
  | .code .. => .code
  | .htmlInline _ => .htmlInline
  | .emph => .emph
  | .strong => .strong
  | .link .. => .link
  | .image .. => .image
  | .extension _ => .other

namespace Kind

/-- The construct's name in logs and views. -/
def name : Kind → String
  | document => "document"
  | blockQuote => "block_quote"
  | list => "list"
  | item => "item"
  | paragraph => "paragraph"
  | heading => "heading"
  | codeBlock => "code_block"
  | htmlBlock => "html_block"
  | thematicBreak => "thematic_break"
  | text => "text"
  | softBreak => "softbreak"
  | lineBreak => "linebreak"
  | code => "code"
  | htmlInline => "html_inline"
  | emph => "emph"
  | strong => "strong"
  | link => "link"
  | image => "image"
  | other => "other"

/-- The construct's name in the one-line descriptions of visits and documents. -/
def label : Kind → String
  | document => "Document"
  | blockQuote => "BlockQuote"
  | list => "List"
  | item => "Item"
  | paragraph => "Paragraph"
  | heading => "Heading"
  | codeBlock => "CodeBlock"
  | htmlBlock => "HtmlBlock"
  | thematicBreak => "ThematicBreak"
  | text => "Text"
  | softBreak => "SoftBreak"
  | lineBreak => "LineBreak"
  | code => "Code"
  | htmlInline => "HtmlInline"
  | emph => "Emph"
  | strong => "Strong"
  | link => "Link"
  | image => "Image"
  | other => "Other"

/-- Whether nodes of this kind can hold children; extensions may or may not. -/
def isContainer : Kind → Option Bool
  | text | softBreak | lineBreak | code | htmlInline | codeBlock | htmlBlock | thematicBreak => some false
  | other => none
  | _ => some true

/-- Whether a walk opens a node of this kind and leaves it again after its children.
An extension opens only when it has a child. -/
def opens (kind : Kind) (hasChild : Bool) : Bool :=
  kind.isContainer.getD hasChild

end Kind

/-- The text that a view shows beside the node's name. -/
def Value.literal? : Value → Option String
  | .text literal => some literal
  | .htmlInline literal => some literal
  | .code literal _ => some literal
  | .codeBlock _ literal _ => some literal
  | .htmlBlock literal => some literal
  | .link url _ => some url
  | .image url _ => some url
  | _ => none

end Frontmark.Markup
