import Frontmark.Text.Entity

/-! Texts that stand for themselves: nothing is trimmed from them, and nothing in them is a reference or an escape. -/

set_option autoImplicit false

namespace Frontmark.Text

variable {text : List Char}

theorem dropSpaces_of_first (first : ∀ c ∈ text.head?, isSpace c = false) : dropSpaces text = text := by
  cases text with
  | nil => rfl
  | cons c text => exact List.dropWhile_cons_of_neg (by simp [first c rfl])

theorem dropSpacesEnd_of_last (last : ∀ c ∈ text.getLast?, isSpace c = false) : dropSpacesEnd text = text := by
  have first : dropSpaces text.reverse = text.reverse :=
    dropSpaces_of_first fun c member => last c (List.head?_reverse ▸ member)
  rw [dropSpacesEnd, ← dropSpaces, first, List.reverse_reverse]

theorem strip_of_ends (first : ∀ c ∈ text.head?, isSpace c = false) (last : ∀ c ∈ text.getLast?, isSpace c = false) :
    strip text = text := by
  rw [strip, dropSpaces_of_first first, dropSpacesEnd_of_last last]

theorem resolveEntities_of_notMem (ampersand : '&' ∉ text) (limit : Nat) : resolveEntities limit text = text := by
  induction text generalizing limit with
  | nil => cases limit <;> rfl
  | cons c text ih =>
    cases limit with
    | zero => rfl
    | succ limit =>
      rw [resolveEntities, if_neg (List.ne_of_not_mem_cons ampersand).symm, ih (List.not_mem_of_not_mem_cons ampersand)]

theorem decodeEntities_of_notMem (ampersand : '&' ∉ text) : decodeEntities text = text :=
  resolveEntities_of_notMem ampersand _

theorem dropEscapes_of_notMem (backslash : '\\' ∉ text) : dropEscapes text = text := by
  induction text with
  | nil => rfl
  | cons c text ih =>
    have other : c ≠ '\\' := (List.ne_of_not_mem_cons backslash).symm
    rw [dropEscapes, ih (List.not_mem_of_not_mem_cons backslash)]
    exact fun _ _ same => absurd same other

end Frontmark.Text
