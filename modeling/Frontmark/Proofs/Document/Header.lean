import Frontmark.Document
import Frontmark.Proofs.Header.Attach
import Frontmark.Proofs.Except

/-! Headers of documents that are written and read again.

Main statements: which headers come back from a document that is written as Markdown, and when the header of a
text is still its header after a round trip. What reads the body has no part in either. -/

set_option autoImplicit false

namespace Frontmark.Document

open Frontmark.Header (Closes IsGap Opens dashes dropMark split)
open Frontmark.Markup (RoseTree Value render)
open Frontmark.Text

/-- Writing a document and dividing the text gives its header back exactly if the header has no blanks at its
ends and no line that can close a block. Then the body is what was rendered, without the gap at its start. -/
theorem header_reread_iff (h : String) (body : RoseTree Value) (bodyBegin : Nat) :
    let read := split (toMarkdown ⟨some h, body, bodyBegin⟩)
    (read.header = some h ↔ trim h.toList = h.toList ∧ ∀ line ∈ lines h.toList, ¬ Closes dashes line) ∧
    (read.header = some h →
      ∃ gap, IsGap (render body).toList gap read.body.toList ∧
        read.bodyBegin = 4 + h.toList.count '\n' + gap.count '\n') := by
  have same := Header.header_attach_iff h (render body)
  refine ⟨same, ?_⟩
  intro found
  obtain ⟨gap, rest, isGap, whole⟩ := Header.split_attach h (render body) (same.mp found).2
  refine ⟨gap, ?_, ?_⟩
  · simpa [toMarkdown, whole] using isGap
  · simp [toMarkdown, whole]

theorem eq_split_of_divide {o : Options} {text : String} {s : Header.Split} (divided : divide o text = .ok s) :
    s = split text := by
  unfold divide at divided
  split at divided
  · cases valid : Header.validate (split text).header with
    | error cause => simp [valid, Except.map] at divided
    | ok checked => simpa [valid, Except.map] using divided.symm
  · exact (Except.ok.inj divided).symm

theorem eq_attach_of_roundTripBy {read : BodyReader} {o : Options} {text out : String}
    (done : roundTripBy read o text = .ok out) :
    out = Header.attach (split text).header (render (read o (split text).body)) := by
  unfold roundTripBy readBy at done
  cases divided : divide o text with
  | error cause => simp [divided, Except.map] at done
  | ok s =>
    rw [eq_split_of_divide divided] at divided
    simpa [divided, Except.map, toMarkdown, ofSplit] using done.symm

/-- A round trip keeps a header exactly if no line of it can close a block that dashes opened. If dashes opened
the block already, only an indented line of the block can do harm. -/
theorem header_roundTrip_iff (read : BodyReader) (o : Options) {text h out : String}
    (found : (split text).header = some h) (done : roundTripBy read o text = .ok out) :
    ((split out).header = some h ↔ ∀ line ∈ lines h.toList, ¬ Closes dashes line) ∧
    (∀ later, Opens (dropMark text.toList) dashes later →
      (∀ indent line, indent ≠ [] → Blank indent → Closes dashes line → indent ++ line ∉ later) →
      (split out).header = some h) := by
  have kept : (split out).header = some h ↔ ∀ line ∈ lines h.toList, ¬ Closes dashes line := by
    rw [eq_attach_of_roundTripBy done, found, Header.header_attach_iff]
    exact and_iff_right (Header.trim_header found)
  refine ⟨kept, ?_⟩
  intro later opens flush
  rw [kept]
  intro line member closes
  obtain ⟨indent, closer, nonempty, blank, closes, inside⟩ := Header.exists_indented_of_closes opens found member closes
  exact flush indent closer nonempty blank closes inside

/-- Dashes with more on their line do not close a block. -/
theorem header_roundTrip_comment :
    (split "---\n--- # a\nb: 1\n---\nBody\n").header = some "--- # a\nb: 1" ∧
    roundTrip {} "---\n--- # a\nb: 1\n---\nBody\n" = .ok "---\n--- # a\nb: 1\n---\nBody\n" ∧
    ∀ line ∈ lines "--- # a\nb: 1".toList, ¬ Closes dashes line := by
  have found : (split "---\n--- # a\nb: 1\n---\nBody\n").header = some "--- # a\nb: 1" := by decide +kernel
  have done : roundTrip {} "---\n--- # a\nb: 1\n---\nBody\n" = .ok "---\n--- # a\nb: 1\n---\nBody\n" :=
    eq_ok_of_toOption (by decide +kernel)
  exact ⟨found, done, (header_roundTrip_iff Body.read {} found done).1.mp found⟩

/-- A header is lost if dashes stand in it that did not close its block, because other words opened that or
because the dashes were indented. -/
theorem header_roundTrip_lost :
    ((split "= yaml =\n---\na: 1\n= yaml =\nBody\n").header = some "---\na: 1" ∧
      roundTrip {} "= yaml =\n---\na: 1\n= yaml =\nBody\n" = .ok "---\n---\na: 1\n---\nBody\n" ∧
      (split "---\n---\na: 1\n---\nBody\n").header = some "") ∧
    ((split "---\n  ---\nfoo\n---\nBody\n").header = some "---\nfoo" ∧
      roundTrip {} "---\n  ---\nfoo\n---\nBody\n" = .ok "---\n---\nfoo\n---\nBody\n" ∧
      (split "---\n---\nfoo\n---\nBody\n").header = some "") := by
  refine ⟨⟨?_, eq_ok_of_toOption ?_, ?_⟩, ⟨?_, eq_ok_of_toOption ?_, ?_⟩⟩ <;> decide +kernel

end Frontmark.Document
