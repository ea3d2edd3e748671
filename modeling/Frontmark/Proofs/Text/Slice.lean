import Frontmark.Text.Slice
import Mathlib.Data.List.Basic

/-! Parts of a text that is known in pieces.

The bytes of a piece are those from the end of what stands before it on, so a range between two seams has just the
pieces between them (`slice?_append`), and a search ends at a seam as well. -/

set_option autoImplicit false

namespace Frontmark.Text

namespace Utf8

@[simp] theorem size_nil : size [] = 0 :=
  rfl

@[simp] theorem size_cons (c : Char) (text : List Char) : size (c :: text) = c.utf8Size + size text :=
  rfl

@[simp] theorem utf8Size_newline : '\n'.utf8Size = 1 :=
  rfl

@[simp] theorem size_append (first rest : List Char) : size (first ++ rest) = size first + size rest := by
  induction first with
  | nil => simp
  | cons c first ih => rw [List.cons_append, size_cons, size_cons, ih, Nat.add_assoc]

/-- Every character takes a byte at least. -/
theorem length_le_size (text : List Char) : text.length ≤ size text := by
  induction text with
  | nil => exact Nat.le_refl 0
  | cons c text ih =>
    have wide := c.utf8Size_pos
    rw [List.length_cons, size_cons]
    omega

theorem utf8ByteSize_ofList (text : List Char) : (String.ofList text).utf8ByteSize = size text := by
  induction text with
  | nil => rfl
  | cons c text ih =>
    rw [size_cons, ← ih]
    simp

theorem utf8ByteSize_eq (text : String) : text.utf8ByteSize = size text.toList := by
  rw [← utf8ByteSize_ofList, String.ofList_toList]

end Utf8

open Utf8 (size size_append)

section Parts

variable {text : String} {before middle after : List Char}

/-- Every seam is a boundary between characters. -/
theorem isValid_size (parts : text.toList = before ++ after) : (String.Pos.Raw.mk (size before)).IsValid text := by
  rw [String.Pos.Raw.isValid_iff_exists_append]
  refine ⟨String.ofList before, String.ofList after, ?_, ?_⟩
  · rw [← String.ofList_append, ← parts, String.ofList_toList]
  · rw [String.Pos.Raw.ext_iff, String.byteIdx_rawEndPos, Utf8.utf8ByteSize_ofList]

theorem ByteRange.fits_of_append (parts : text.toList = before ++ (middle ++ after)) :
    (ByteRange.mk (size before) (size (before ++ middle))).Fits text where
  ordered := by simp
  inside := by
    rw [Utf8.utf8ByteSize_eq, parts, ← List.append_assoc, size_append (before ++ middle)]
    exact Nat.le_add_right ..
  start_whole := isValid_size parts
  stop_whole := isValid_size (parts.trans (List.append_assoc ..).symm)

theorem slice?_append (parts : text.toList = before ++ (middle ++ after)) :
    slice? text ⟨size before, size (before ++ middle)⟩ = some (String.ofList middle) := by
  have bytes : text.toByteArray =
      (String.ofList before).toByteArray ++ ((String.ofList middle).toByteArray ++ (String.ofList after).toByteArray) := by
    rw [← String.toByteArray_append, ← String.toByteArray_append, ← String.ofList_append, ← String.ofList_append, ← parts,
      String.ofList_toList]
  have size_eq (part : List Char) : size part = (String.ofList part).toByteArray.size := by
    rw [String.size_toByteArray, Utf8.utf8ByteSize_ofList]
  -- the range is one of bytes, so the pieces are compared by theirs
  rw [slice?, dif_pos (ByteRange.fits_of_append parts), Option.some.injEq, ← String.toByteArray_inj,
    String.toByteArray_extract]
  change text.toByteArray.extract (size before + 0) (size (before ++ middle)) = _
  rw [bytes, size_append, ByteArray.extract_append_size_add' (size_eq before),
    ByteArray.extract_append_eq_left (size_eq middle)]

/-- The rest of a text from a seam on. -/
theorem slice?_end (parts : text.toList = before ++ after) :
    slice? text ⟨size before, text.utf8ByteSize⟩ = some (String.ofList after) := by
  have found := slice?_append (show text.toList = before ++ (after ++ []) by rw [parts, List.append_nil])
  rwa [← parts, ← Utf8.utf8ByteSize_eq] at found

end Parts

section Search

variable {p : Char → Bool} {before after : List Char} {c : Char}

theorem firstOffset?_eq_none (never : ∀ c ∈ before, p c = false) : firstOffset? p before = none := by
  induction before with
  | nil => rfl
  | cons d before ih =>
    obtain ⟨other, never⟩ := List.forall_mem_cons.mp never
    simp [firstOffset?, other, ih never]

theorem firstOffset?_append (never : ∀ c ∈ before, p c = false) (holds : p c = true) :
    firstOffset? p (before ++ c :: after) = some (size before) := by
  induction before with
  | nil => simp [firstOffset?, holds]
  | cons d before ih =>
    obtain ⟨other, never⟩ := List.forall_mem_cons.mp never
    simp [firstOffset?, other, ih never]

theorem lastOffset?_eq_none (never : ∀ c ∈ after, p c = false) : lastOffset? p after = none := by
  induction after with
  | nil => rfl
  | cons d after ih =>
    obtain ⟨other, never⟩ := List.forall_mem_cons.mp never
    simp [lastOffset?, other, ih never]

theorem lastOffset?_append (holds : p c = true) (never : ∀ c ∈ after, p c = false) :
    lastOffset? p (before ++ c :: after) = some (size before) := by
  induction before with
  | nil => simp [lastOffset?, holds, lastOffset?_eq_none never]
  | cons d before ih => simp [lastOffset?, ih]

end Search

end Frontmark.Text
