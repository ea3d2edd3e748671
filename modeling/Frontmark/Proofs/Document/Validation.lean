import Frontmark.Proofs.Body.Blind
import Frontmark.Proofs.Document.Header

/-! Checking a header while a text is read, and reading attributes from it afterwards.

Both ask whether the header is well-formed, on their own and each with its own rule for headers that say nothing.
Main statement: they refuse the same headers for the same reason (`readBy_validating`). -/

set_option autoImplicit false

namespace Frontmark

open Frontmark.Attributes (Reading)
open Frontmark.Text

namespace Header

variable {header : Option String}

/-- Nothing is left to trim, as in a header that has been divided from a text. -/
def Trimmed (header : Option String) : Prop :=
  ∀ h ∈ header, trim h.toList = h.toList

theorem trimmed_split (text : String) : Trimmed (split text).header :=
  fun _ found => trim_header found

/-- A trimmed header that holds only blanks holds nothing, so the two rules for headers that say nothing agree. -/
theorem Trimmed.isEmpty_iff {h : String} (trimmed : Trimmed (some h)) : h.isEmpty = true ↔ h.toList.all isBlank = true := by
  rw [String.isEmpty_iff, ← String.toList_eq_nil_iff, List.all_eq_true]
  constructor
  · intro empty
    simp [empty]
  · intro blank
    rw [← trimmed h rfl, trim, Blank.trimStart blank]
    rfl

theorem value_eq_error {h : String} {e : HeaderError} (refused : value h = .error e) : ∃ cause, e = .notYaml cause := by
  unfold value at refused
  split at refused
  · cases refused
  · exact ⟨_, (Except.error.inj refused).symm⟩

/-- A header is refused for one reason only. -/
theorem validate_eq_error {e : HeaderError} (refused : validate header = .error e) : ∃ cause, e = .notYaml cause := by
  cases header with
  | none => cases refused
  | some h =>
    rw [validate] at refused
    split at refused
    · cases refused
    · cases read : value h with
      | error cause =>
        obtain rfl : cause = e := by simpa [read, Except.map] using refused
        exact value_eq_error read
      | ok v => simp [read, Except.map] at refused

/-- Attributes of any kind are refused as not well-formed exactly when a check refuses the header. -/
theorem Trimmed.attributes_eq_error_iff (trimmed : Trimmed header) {α : Type} (read : Yaml.Value → Reading α)
    (default : α) (cause : Yaml.Error) :
    attributes read default header = .error (.notYaml cause) ↔ validate header = .error (.notYaml cause) := by
  cases header with
  | none => simp [attributes, validate]
  | some h =>
    rw [attributes, validate]
    by_cases blank : h.toList.all isBlank = true
    · rw [if_pos blank, if_pos (trimmed.isEmpty_iff.mpr blank)]
      simp
    · rw [if_neg blank, if_neg (mt trimmed.isEmpty_iff.mp blank)]
      cases found : value h with
      | error e => simp [bind, Except.bind, Except.map]
      | ok v =>
        -- a value that has been read is a default or is read on, and neither makes it malformed again
        cases nothing : v.untagged.isNull with
        | true => simp [bind, Except.bind, pure, Except.pure, Except.map, nothing]
        | false => cases taken : read v <;> simp [bind, Except.bind, pure, Except.pure, throw, throwThe,
            MonadExceptOf.throw, Except.map, nothing, taken]

end Header

namespace Document

open Frontmark.Header (attributes split validate)

/-- All that a check adds is the check. -/
theorem readBy_checked {read : BodyReader} (blind : ∀ o check body, read (o.validating check) body = read o body)
    (o : Options) (text : String) :
    readBy read (o.validating true) text =
      (validate (split text).header).map fun _ => ofSplit read (o.validating false) (split text) := by
  have same : ofSplit read (o.validating true) (split text) = ofSplit read (o.validating false) (split text) := by
    simp only [ofSplit, blind]
  cases valid : validate (split text).header <;> simp [readBy, divide, Options.validating, valid, Except.map]
  exact same

/-- Without a check every text has a document. With one, a text is refused exactly as the attributes of this document
are, of whatever kind they are; otherwise it has the same document. What reads the body only has to do so by itself. -/
theorem readBy_validating {read : BodyReader} (blind : ∀ o check body, read (o.validating check) body = read o body)
    (o : Options) (text : String) {α : Type} (kind : Yaml.Value → Reading α) (default : α) :
    ∃ d, readBy read (o.validating false) text = .ok d ∧
      (∀ e, readBy read (o.validating true) text = .error e ↔
        ∃ cause, e = .notYaml cause ∧ attributes kind default d.header = .error (.notYaml cause)) ∧
      ((∀ cause, attributes kind default d.header ≠ .error (.notYaml cause)) →
        readBy read (o.validating true) text = .ok d) := by
  have agree (cause : Yaml.Error) : attributes kind default (split text).header = .error (.notYaml cause) ↔
      validate (split text).header = .error (.notYaml cause) :=
    (Header.trimmed_split text).attributes_eq_error_iff kind default cause
  refine ⟨ofSplit read (o.validating false) (split text), rfl, fun e => ⟨fun refused => ?_, ?_⟩, fun accepted => ?_⟩
  · rw [readBy_checked blind] at refused
    cases valid : validate (split text).header with
    | ok => simp [valid, Except.map] at refused
    | error e' =>
      obtain rfl : e' = e := by simpa [valid, Except.map] using refused
      obtain ⟨cause, rfl⟩ := Header.validate_eq_error valid
      exact ⟨cause, rfl, (agree cause).mpr valid⟩
  · rintro ⟨cause, rfl, refused⟩
    rw [readBy_checked blind, (agree cause).mp refused]
    rfl
  · rw [readBy_checked blind]
    cases valid : validate (split text).header with
    | ok => rfl
    | error e =>
      obtain ⟨cause, rfl⟩ := Header.validate_eq_error valid
      exact absurd ((agree cause).mpr valid) (accepted cause)

/-- A header with a bracket that is never closed: the check refuses it, and so does whoever asks for a post. -/
theorem readBy_validating_unclosed :
    (∀ o check body, Body.read (Options.validating o check) body = Body.read o body) ∧
    ∃ d, read { validateHeader := false } "---\ntitle: [oops\n---\nBody\n" = .ok d ∧
      ∃ cause, read {} "---\ntitle: [oops\n---\nBody\n" = .error (.notYaml cause) ∧
        attributes Attributes.Post.read ⟨"", false⟩ d.header = .error (.notYaml cause) := by
  obtain ⟨d, unchecked, refused, accepted⟩ := readBy_validating Body.read_validating {} "---\ntitle: [oops\n---\nBody\n"
    Attributes.Post.read ⟨"", false⟩
  refine ⟨Body.read_validating, d, unchecked, ?_⟩
  cases checked : read {} "---\ntitle: [oops\n---\nBody\n" with
  | ok d' =>
    have none_ : (read {} "---\ntitle: [oops\n---\nBody\n").toOption.isNone = true := by decide +kernel
    rw [checked] at none_
    cases none_
  | error e =>
    obtain ⟨cause, rfl, same⟩ := (refused e).mp checked
    exact ⟨cause, rfl, same⟩

end Document

end Frontmark
