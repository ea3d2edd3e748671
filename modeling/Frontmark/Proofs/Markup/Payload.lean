import Frontmark.Markup.Render
import Frontmark.Proofs.Block.Fence
import Frontmark.Proofs.Inline.Span
import Frontmark.Proofs.Link.Destination

/-! What is written between the delimiters of code, blocks of code and links.

A payload is written as it is, between delimiters that do not depend on it. Main statement: what is read between them
again is the payload exactly if nothing in it ends it early (`out_payload`). -/

set_option autoImplicit false

namespace Frontmark.Markup

open Frontmark.Block (fenced? IsClosing)
open Frontmark.Body (linesFrom)
open Frontmark.Inline (codeSpan? NoSingleTick)
open Frontmark.Link (Bare deepestParentheses destination?)

namespace RoseTree

variable (cs : List (RoseTree Value))

theorem toList_out_code (literal : String) (ticks : Nat) :
    (RoseTree.out (.node (.code literal ticks) cs)).toList = '\x60' :: literal.toList ++ ['\x60'] := by
  simp [RoseTree.out, Value.entering?, Value.kind, Kind.opens, Kind.isContainer]

theorem toList_out_codeBlock (info literal : String) (fenced : Bool) :
    (RoseTree.out (.node (.codeBlock info literal fenced) cs)).toList =
      "\x60\x60\x60 ".toList ++ info.toList ++ '\n' :: (literal.toList ++ "\x60\x60\x60\n\n".toList) := by
  simp [RoseTree.out, Value.entering?, Value.kind, Kind.opens, Kind.isContainer]

theorem out_link (url title : String) :
    RoseTree.out (.node (.link url title) cs) = "[" ++ RoseTree.outAll cs ++ "](" ++ url ++ ")" := by
  simp [RoseTree.out, Value.entering?, Value.leaving?, Value.kind, Kind.opens, Kind.isContainer, String.append_assoc]

/-- The delimiters hold what they should exactly under three conditions, one for each kind of node. A literal in a
paragraph begins and ends with another character than a backtick and has no backtick that stands alone; a block of code
has no backtick in its info string and no line that closes its fence; a url is a destination without brackets. -/
theorem out_payload {info literal : String} (single : ∀ c ∈ info.toList, c ≠ '\n' ∧ c ≠ '\r')
    (ended : literal = "" ∨ literal.toList.getLast? = some '\n') (span url title : String) (ticks : Nat) (fenced : Bool) :
    (codeSpan? (RoseTree.out (.node (.code span ticks) cs)).toList = some (span.toList, []) ↔
      span.toList ≠ [] ∧ span.toList.head? ≠ some '\x60' ∧ span.toList.getLast? ≠ some '\x60' ∧ NoSingleTick span.toList) ∧
    (fenced? (RoseTree.out (.node (.codeBlock info literal fenced) cs)).toList =
        some (' ' :: info.toList, linesFrom [] literal.toList, ["\x60\x60\x60".toList, []]) ↔
      '\x60' ∉ info.toList ∧ ∀ line ∈ linesFrom [] literal.toList, ¬ IsClosing line) ∧
    RoseTree.out (.node (.link url title) cs) = "[" ++ RoseTree.outAll cs ++ "](" ++ url ++ ")" ∧
    (destination? (url.toList ++ [')']) = some (url.toList, [')']) ↔
      url.toList.head? ≠ some '<' ∧ Bare deepestParentheses url.toList) := by
  rw [toList_out_code, toList_out_codeBlock]
  have ended : literal.toList = [] ∨ literal.toList.getLast? = some '\n' := ended.imp_left (congrArg String.toList)
  exact ⟨Inline.codeSpan?_ticked_iff _, Block.fenced?_iff single ended, out_link cs url title, Link.destination?_iff _⟩

/-- Longer runs of backticks inside of a literal, a shorter or indented one on a line of code, and parentheses in pairs do
no harm. -/
theorem out_payload_fits :
    (∀ c ∈ "rust".toList, c ≠ '\n' ∧ c ≠ '\r') ∧ "a\n \x60\x60\n".toList.getLast? = some '\n' ∧
    codeSpan? (RoseTree.out (.node (.code "a\x60\x60b" 1) [])).toList = some ("a\x60\x60b".toList, []) ∧
    (∀ line ∈ linesFrom [] "a\n \x60\x60\n".toList, ¬ IsClosing line) ∧ Bare deepestParentheses "b(c)\\(".toList := by
  have single : ∀ c ∈ "rust".toList, c ≠ '\n' ∧ c ≠ '\r' := by decide
  have ended : "a\n \x60\x60\n".toList.getLast? = some '\n' := by decide
  obtain ⟨span, block, -, url⟩ := out_payload [] single (.inr ended) "a\x60\x60b" "b(c)\\(" "" 1 true
  exact ⟨single, ended, span.mpr (by decide +kernel), (block.mp (by decide +kernel)).2, (url.mp (by decide +kernel)).2⟩

/-- A literal with a single backtick, a line of code that is a fence, an info string with a backtick and a url with a space
are not held by their delimiters. -/
theorem out_payload_breaks :
    codeSpan? (RoseTree.out (.node (.code "a\x60b" 2) [])).toList = some ("a".toList, "b\x60".toList) ∧
    fenced? (RoseTree.out (.node (.codeBlock "" "\x60\x60\x60\n" true) [])).toList =
      some (" ".toList, [], ["\x60\x60\x60".toList, "\x60\x60\x60".toList, []]) ∧
    fenced? (RoseTree.out (.node (.codeBlock "a\x60b" "x\n" true) [])).toList = none ∧
    RoseTree.out (.node (.link "b c" "") [.node (.text "a") []]) = "[a](b c)" ∧
    destination? "b c)".toList = some ("b".toList, " c)".toList) := by
  decide +kernel

end RoseTree

end Frontmark.Markup
