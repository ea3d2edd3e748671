import Frontmark.Proofs.Body.Normal
import Frontmark.Proofs.Document.Header

/-! Documents that are written, read and written once more.

Main statement: nothing more changes if the body that has been written is in normal form, and whatever it is, a text is
accepted again as long as its header is the same. -/

set_option autoImplicit false

namespace Frontmark.Document

open Frontmark.Body (Normal render_read_normal)
open Frontmark.Header (HasBlock attach isSome_header_iff split split_eq_none)
open Frontmark.Markup (render)
open Frontmark.Text

variable {o : Options} {text out : String}

/-- What is refused depends on nothing but the header. -/
theorem divide_of_header_eq {s : Header.Split} (divided : divide o text = .ok s) (same : (split out).header = (split text).header) :
    divide o out = .ok (split out) := by
  unfold divide at divided ⊢
  split
  · rename_i checked
    rw [if_pos checked] at divided
    cases valid : Header.validate (split text).header with
    | error cause => simp [valid, Except.map] at divided
    | ok => simp [same, valid, Except.map]
  · rfl

/-- A second pass starts from the body that the first one has left. -/
theorem roundTripBy_again {read : BodyReader} (done : roundTripBy read o text = .ok out)
    (kept : (split out).header = (split text).header) :
    roundTripBy read o out = .ok (attach (split text).header (render (read o (split out).body))) := by
  unfold roundTripBy readBy at done
  cases divided : divide o text with
  | error cause => simp [divided, Except.map] at done
  | ok s => simp [roundTripBy, readBy, divide_of_header_eq divided kept, Except.map, toMarkdown, ofSplit, kept]

/-- A body that does not begin with blanks is found where it has been written. -/
theorem body_split_attach {header : Option String} {body : String} (kept : (split (attach header body)).header = header)
    (visible : ∀ c ∈ body.toList.head?, isBlank c = false) : (split (attach header body)).body = body := by
  cases header with
  | none =>
    have plain : ¬ HasBlock body.toList := by
      rintro hasBlock
      have some_ := (isSome_header_iff body).mpr hasBlock
      have same : (split body).header = none := kept
      simp [same] at some_
    change (split body).body = body
    rw [split_eq_none plain]
  | some h =>
    obtain ⟨gap, rest, isGap, whole⟩ := Header.split_attach h body ((Header.header_attach_iff h body).mp kept).2
    rw [whole, (isGap.eq_nil_of_visible visible).2, String.ofList_toList]

end Frontmark.Document
