import Frontmark.Markup.Render

/-! Documents of paragraphs, code blocks and breaks, without any of the constructs of which a rendering is known to
lose something.

Literals are written as they are, next to markers of one or two characters. A document is `clear` if none of its
literals can be taken for a marker, and no two of its markers for another one. -/

set_option autoImplicit false

namespace Frontmark.Markup

/-- The value as far as its text tells it. -/
def Value.shown : Value → Value
  | .code literal _ => .code literal 1
  | .codeBlock info literal _ => .codeBlock info literal true
  | v => v

def RoseTree.shown (t : RoseTree Value) : RoseTree Value :=
  t.map Value.shown

def RoseTree.isText : RoseTree Value → Bool
  | .node (.text _) _ => true
  | _ => false

def RoseTree.isEmph : RoseTree Value → Bool
  | .node .emph _ => true
  | _ => false

/-- No character of a literal, nor two of them, can be taken for a marker. -/
def ClearText (literal : List Char) : Prop :=
  '*' ∉ literal ∧ '\x60' ∉ literal ∧ '[' ∉ literal ∧ ¬ "](".toList <:+: literal

instance (literal : List Char) : Decidable (ClearText literal) :=
  inferInstanceAs (Decidable (_ ∧ _))

/-- Whether every parenthesis has its partner, if `depth` of them are open before the text. -/
def balanced : (depth : Nat) → List Char → Bool
  | depth, [] => depth = 0
  | depth, c :: text =>
    if c = '(' then balanced (depth + 1) text
    else if c = ')' then depth ≠ 0 && balanced (depth - 1) text
    else balanced depth text

/-- Inline content, inside emphasis of either kind or not. In clear content emphasis is not nested in its own kind
without a link between them, no emphasis follows directly on another one, and strong emphasis has more in it than
emphasis. -/
inductive Inlines (clear : Bool) : (inEmph inStrong : Bool) → List (RoseTree Value) → Prop where
  | nil {e s : Bool} : Inlines clear e s []
  | text {e s : Bool} {literal : String} {ts : List (RoseTree Value)} : literal ≠ "" → '\n' ∉ literal.toList →
      (clear = true → ClearText literal.toList) → ¬ ts.head?.any RoseTree.isText →
      Inlines clear e s ts → Inlines clear e s (.node (.text literal) [] :: ts)
  | code {e s : Bool} {literal : String} {ticks : Nat} {ts : List (RoseTree Value)} : literal ≠ "" →
      '\n' ∉ literal.toList → (clear = true → '\x60' ∉ literal.toList) →
      Inlines clear e s ts → Inlines clear e s (.node (.code literal ticks) [] :: ts)
  | emph {e s : Bool} {cs ts : List (RoseTree Value)} : cs ≠ [] →
      (clear = true → e = false ∧ ¬ ts.head?.any RoseTree.isEmph) →
      Inlines clear true s cs → Inlines clear e s ts → Inlines clear e s (.node .emph cs :: ts)
  | strong {e s : Bool} {cs ts : List (RoseTree Value)} : cs ≠ [] →
      (clear = true → s = false ∧ ∀ ds, cs ≠ [.node .emph ds]) →
      Inlines clear e true cs → Inlines clear e s ts → Inlines clear e s (.node .strong cs :: ts)
  | link {e s : Bool} {url : String} {cs ts : List (RoseTree Value)} : cs ≠ [] →
      (clear = true → balanced 0 url.toList) →
      Inlines clear false false cs → Inlines clear e s ts → Inlines clear e s (.node (.link url "") cs :: ts)

/-- A fence with an empty line after it, as it ends a block of code. -/
def fenceEnd : List Char :=
  "\x60\x60\x60\n\n".toList

/-- Every line of the text is ended, so that a new one begins after it. -/
def Ended (text : List Char) : Prop :=
  text = [] ∨ text.getLast? = some '\n'

instance (text : List Char) : Decidable (Ended text) :=
  inferInstanceAs (Decidable (_ ∨ _))

/-- Paragraphs, blocks of code whose lines are all ended, and breaks. A clear paragraph does not look like a break,
and clear code has no line that looks like the end of its block. -/
inductive IsBlock (clear : Bool) : RoseTree Value → Prop where
  | paragraph {cs : List (RoseTree Value)} : cs ≠ [] → Inlines clear false false cs →
      (clear = true → cs ≠ [.node (.text "---") []]) → IsBlock clear (.node .paragraph cs)
  | codeBlock {info literal : String} {fenced : Bool} : Ended literal.toList →
      (clear = true → '\n' ∉ info.toList ∧
        ∀ before after, literal.toList = before ++ (fenceEnd ++ after) → ¬ Ended before) →
      IsBlock clear (.node (.codeBlock info literal fenced) [])
  | thematicBreak : IsBlock clear (.node .thematicBreak [])

def IsPlain (clear : Bool) (t : RoseTree Value) : Prop :=
  ∃ blocks, t = .node .document blocks ∧ ∀ b ∈ blocks, IsBlock clear b

end Frontmark.Markup
