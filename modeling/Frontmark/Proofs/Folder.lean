import Frontmark.Folder
import Mathlib.Data.List.Basic

/-! Files that are written into a folder.

Main statement: what is written to a path is read from it again, and no other file changes (`Folder.of_write`). -/

set_option autoImplicit false

namespace Frontmark.Folder

variable {f : Folder} {folder path other steps : List String} {content : List UInt8}

section Content

theorem content?_put_self (f : Folder) (path : List String) (content : List UInt8) :
    (f.put path content).content? path = some content := by
  simp [put, content?]

theorem content?_put_of_ne (different : other ≠ path) (content : List UInt8) :
    (f.put path content).content? other = f.content? other := by
  have skipped (files : List (List String × List UInt8)) :
      (files.filter (·.1 ≠ path)).lookup other = files.lookup other := by
    induction files with
    | nil => rfl
    | cons file files ih =>
      obtain ⟨name, inside⟩ := file
      by_cases same : name = path
      · subst same
        simpa [List.lookup_cons, beq_eq_false_iff_ne.mpr different] using ih
      · rw [List.filter_cons_of_pos (by simpa using same), List.lookup_cons, List.lookup_cons, ih]
  rw [put, content?, List.lookup_cons, beq_eq_false_iff_ne.mpr different]
  exact skipped f.files

end Content

section Places

theorem hasFolder_iff :
    f.hasFolder path = true ↔ isAbove path = true ∨ ∃ file ∈ f.files, path.length < file.1.length ∧ path <+: file.1 := by
  simp [hasFolder]

theorem hasFolder_above (there : f.hasFolder path = true) (inside : other <+: path) : f.hasFolder other = true := by
  rw [hasFolder_iff] at there ⊢
  obtain above | ⟨file, member, longer, start⟩ := there
  · left
    rw [isAbove, List.all_eq_true] at above ⊢
    exact fun step member => above step (inside.subset member)
  · exact .inr ⟨file, member, Nat.lt_of_le_of_lt inside.length_le longer, inside.trans start⟩

/-- A new file is in a folder that is there. -/
theorem hasFolder_put (parent : f.hasFolder path.dropLast = true) (content : List UInt8) (other : List String) :
    (f.put path content).hasFolder other = f.hasFolder other := by
  refine Bool.eq_iff_iff.mpr ⟨fun there => ?_, fun there => ?_⟩
  · obtain above | ⟨file, member, longer, start⟩ := hasFolder_iff.mp there
    · exact hasFolder_iff.mpr (.inl above)
    · obtain rfl | ⟨old, -⟩ := (List.mem_cons.trans (or_congr_right List.mem_filter)).mp member
      · refine hasFolder_above parent ?_
        rw [List.dropLast_eq_take]
        exact List.prefix_take_iff.mpr ⟨start, Nat.le_sub_one_of_lt longer⟩
      · exact hasFolder_iff.mpr (.inr ⟨file, old, longer, start⟩)
  · rw [hasFolder_iff] at there ⊢
    refine there.imp_right fun ⟨file, member, longer, start⟩ => ?_
    by_cases same : file.1 = path
    · exact ⟨(path, content), List.mem_cons_self, same ▸ longer, same ▸ start⟩
    · exact ⟨file, List.mem_cons_of_mem _ (List.mem_filter.mpr ⟨member, by simpa using same⟩), longer, start⟩

/-- A file is there, or one can be put there. -/
def Place.Allows (place : Place) (path : List String) : Prop :=
  place = .file path ∨ place = .free path

theorem not_allows_blocked (cause : FileError) (steps path : List String) : ¬ (blocked cause steps).Allows path := by
  unfold blocked Place.Allows
  split_ifs <;> simp

theorem eq_of_allows_endAt (allows : (f.endAt folder steps).Allows path) : steps = [] ∧ path = folder := by
  unfold endAt at allows
  dsimp only at allows
  split_ifs at allows with last
  · obtain ⟨⟨⟩⟩ | ⟨⟨⟩⟩ := allows
    exact ⟨List.isEmpty_iff.mp last, rfl⟩
  · obtain ⟨⟨⟩⟩ | ⟨⟨⟩⟩ := allows
    exact ⟨List.isEmpty_iff.mp last, rfl⟩
  all_goals exact absurd allows (not_allows_blocked _ _ _)

/-- The way to a file leads through folders, and leads there again when the file has been put there. -/
theorem follow_put (there : f.hasFolder folder = true) (allows : (f.follow folder steps).Allows path) :
    f.hasFolder path.dropLast = true ∧ ∀ content, (f.put path content).follow folder steps = .file path := by
  induction steps generalizing folder with
  | nil => simp [follow, Place.Allows] at allows
  | cons step steps ih =>
    rw [follow] at allows
    dsimp only at allows
    split_ifs at allows with skip up above long last into
    · obtain ⟨parent, after⟩ := ih there allows
      exact ⟨parent, fun content => by rw [follow, if_pos skip, after]⟩
    · have there' : f.hasFolder (folder ++ [step]) = true := by
        rw [hasFolder_iff]
        left
        simpa [isAbove, up] using above
      obtain ⟨parent, after⟩ := ih there' allows
      exact ⟨parent, fun content => by rw [follow, if_neg skip, if_pos up, if_pos above, after]⟩
    · obtain ⟨parent, after⟩ := ih (hasFolder_above there (List.dropLast_prefix folder)) allows
      exact ⟨parent, fun content => by rw [follow, if_neg skip, if_pos up, if_neg above, after]⟩
    · simp [Place.Allows] at allows
    · exact absurd allows (not_allows_blocked _ _ _)
    · obtain ⟨parent, after⟩ := ih into allows
      refine ⟨parent, fun content => ?_⟩
      rw [follow, if_neg skip, if_neg up, if_neg long]
      dsimp only
      rw [hasFolder_put parent, if_pos into, after]
    · obtain ⟨rfl, rfl⟩ := eq_of_allows_endAt allows
      have parent : f.hasFolder (folder ++ [step]).dropLast = true := by rwa [List.dropLast_concat]
      refine ⟨parent, fun content => ?_⟩
      rw [follow, if_neg skip, if_neg up, if_neg long]
      dsimp only
      rw [hasFolder_put parent, if_neg into]
      simp [endAt, content?_put_self]

theorem place_put {name : String} (allows : (f.place name).Allows path) (content : List UInt8) :
    (f.put path content).place name = .file path := by
  unfold place at allows ⊢
  split_ifs at allows ⊢ with long
  · simp [Place.Allows] at allows
  · split
    · next cut => simp [cut, Place.Allows] at allows
    · next rest _ cut =>
      simp only [cut] at allows
      split_ifs at allows <;> simp [Place.Allows] at allows
    · next other other' =>
      have root : f.hasFolder [] = true := rfl
      refine (follow_put root ?_).2 content
      split at allows
      · next cut => exact absurd cut other
      · next cut => exact absurd cut (other' _)
      · exact allows

end Places

/-- What is written to a path is read from it again, and nothing else changes. -/
theorem of_write {name : String} {after : Folder} (written : f.write name content = .ok after) :
    ∃ path, (f.place name).Allows path ∧ after.content? path = some content ∧
      (∀ other, other ≠ path → after.content? other = f.content? other) ∧ after.read name = .ok content := by
  have allowed : ∃ path, (f.place name).Allows path ∧ after = f.put path content := by
    unfold write at written
    split at written <;> cases written
    · next path there => exact ⟨path, .inl there, rfl⟩
    · next path there => exact ⟨path, .inr there, rfl⟩
  obtain ⟨path, allows, rfl⟩ := allowed
  refine ⟨path, allows, content?_put_self f path content, fun other different => content?_put_of_ne different content, ?_⟩
  rw [read, place_put allows]
  simp [content?_put_self]

end Frontmark.Folder
