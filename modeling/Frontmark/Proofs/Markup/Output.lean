import Frontmark.Markup.Render

/-! What a rendering is made of: the texts of its visits in their order, but for a line break at the very end. -/

set_option autoImplicit false

namespace Frontmark.Markup

/-- The characters of all visits, before the line break at their end is dropped. -/
def written (visits : List Visit) : List Char :=
  visits.flatMap fun visit => visit.text.toList

theorem toList_foldl_text (visits : List Visit) (start : String) :
    (visits.foldl (fun text visit => text ++ visit.text) start).toList = start.toList ++ written visits := by
  induction visits generalizing start with
  | nil => simp [written]
  | cons visit visits ih => simp [ih, written]

theorem exists_dropLineBreak (text : String) :
    ∃ last, (last = [] ∨ last = ['\n']) ∧ text.toList = (dropLineBreak text).toList ++ last := by
  by_cases ended : text.toList.getLast? = some '\n'
  · obtain ⟨start, whole⟩ := List.getLast?_eq_some_iff.mp ended
    exact ⟨['\n'], .inr rfl, by simp [dropLineBreak, whole]⟩
  · exact ⟨[], .inl rfl, by simp [dropLineBreak, ended]⟩

theorem Forest.exists_written (f : Forest) (root : Nat) :
    ∃ last, (last = [] ∨ last = ['\n']) ∧ written (f.visits root) = (f.render root).toList ++ last := by
  obtain ⟨last, short, whole⟩ := exists_dropLineBreak ((f.visits root).foldl (fun text visit => text ++ visit.text) "")
  refine ⟨last, short, ?_⟩
  rw [toList_foldl_text, String.toList_empty, List.nil_append] at whole
  exact whole

/-- The first character comes from the first visit that has any. -/
theorem exists_first_written {visits : List Visit} {c : Char} {rest : List Char} (whole : written visits = c :: rest) :
    ∃ silent visit more after, visits = silent ++ visit :: more ∧ (∀ v ∈ silent, v.text = "") ∧
      visit.text.toList = c :: after := by
  induction visits with
  | nil => cases whole
  | cons visit visits ih =>
    cases own : visit.text.toList with
    | nil =>
      have later : written visits = c :: rest := by simpa [written, own] using whole
      obtain ⟨silent, first, more, after, rfl, quiet, starts⟩ := ih later
      refine ⟨visit :: silent, first, more, after, rfl, ?_, starts⟩
      exact List.forall_mem_cons.mpr ⟨String.toList_eq_nil_iff.mp own, quiet⟩
    | cons d after =>
      have same : d = c := by simp_all [written]
      exact ⟨[], visit, visits, after, rfl, by simp, own.trans (by rw [same])⟩

end Frontmark.Markup
