import Frontmark.Header
import Frontmark.Proofs.Text.Lines
import Frontmark.Proofs.Text.Trim

/-! The gap between a closing fence and the body, which is as long as it can be without a cut inside a line
that has something other than blanks on it. -/

set_option autoImplicit false

namespace Frontmark.Header

open Frontmark.Text

/-- The longest run of blanks at the start of a text that ends with a line break. A text of blanks only is
all gap. -/
structure IsGap (text gap body : List Char) : Prop where
  parts : gap ++ body = text
  blank : Blank gap
  whole : Blank text → body = []
  ended : ¬ Blank text → gap = [] ∨ gap.getLast? = some '\n'
  longest : ∀ start rest, start ++ '\n' :: rest = text → Blank start → start.length < gap.length

theorem IsGap.length_le {text gap body gap' body' : List Char} (one : IsGap text gap body) (other : IsGap text gap' body')
    (visible : ¬ Blank text) : gap.length ≤ gap'.length := by
  rcases one.ended visible with rfl | last
  · exact Nat.zero_le _
  · -- the gap is a run of blanks with a break after it, and no such run is longer than the other gap
    obtain ⟨start, rfl⟩ := List.getLast?_eq_some_iff.mp last
    have blank : Blank start := (blank_append.mp one.blank).1
    have longer := other.longest start body (by simpa using one.parts) blank
    rw [List.length_append]
    exact longer

theorem IsGap.unique {text gap body gap' body' : List Char} (one : IsGap text gap body) (other : IsGap text gap' body') :
    gap = gap' ∧ body = body' := by
  by_cases blank : Blank text
  · obtain rfl := one.whole blank
    obtain rfl := other.whole blank
    have first := one.parts
    have second := other.parts
    simp only [List.append_nil] at first second
    exact ⟨first.trans second.symm, rfl⟩
  · exact List.append_inj (one.parts.trans other.parts.symm)
      (Nat.le_antisymm (one.length_le other blank) (other.length_le one blank))

theorem IsGap.eq_nil_of_visible {text gap body : List Char} (isGap : IsGap text gap body)
    (visible : ∀ c ∈ text.head?, isBlank c = false) : gap = [] ∧ body = text := by
  cases gap with
  | nil => exact ⟨rfl, isGap.parts⟩
  | cons c gap =>
    have other : isBlank c = false := visible c (by rw [← isGap.parts]; rfl)
    rw [(blank_cons.mp isGap.blank).1] at other
    cases other

theorem IsGap.of_blank {text : List Char} (blank : Blank text) : IsGap text text [] where
  parts := List.append_nil text
  blank := blank
  whole _ := rfl
  ended visible := absurd blank visible
  longest := by
    rintro start rest rfl -
    simp

theorem IsGap.of_newline {text gap body : List Char} (isGap : IsGap ('\n' :: text) gap body) :
    ∃ rest, gap = '\n' :: rest ∧ IsGap text rest body := by
  have nonempty : 0 < gap.length := isGap.longest [] text rfl Blank.nil
  cases gap with
  | nil => simp at nonempty
  | cons c rest =>
    obtain ⟨rfl, parts⟩ := List.cons.inj isGap.parts
    refine ⟨rest, rfl, parts, (blank_cons.mp isGap.blank).2, ?_, ?_, ?_⟩
    · exact fun blank => isGap.whole (blank_cons.mpr ⟨isBlank_newline, blank⟩)
    · intro visible
      rcases isGap.ended (fun blank => visible (blank_cons.mp blank).2) with none | last
      · cases none
      · cases rest with
        | nil => exact .inl rfl
        | cons d rest => exact .inr (by rwa [List.getLast?_cons_cons] at last)
    · intro start body' cut blank
      have longer := isGap.longest ('\n' :: start) body' (by rw [List.cons_append, cut]) (by simp [blank])
      simpa using longer

/-- No run of blanks gets past a line with something on it. -/
theorem not_blank_of_indent {indent : List Char} (single : '\n' ∉ indent) {c : Char} (visible : isBlank c = false)
    (tail : List Char) {start rest : List Char} (cut : start ++ '\n' :: rest = indent ++ c :: tail) : ¬ Blank start := by
  induction indent generalizing start with
  | nil =>
    cases start with
    | nil =>
      obtain ⟨rfl, -⟩ := List.cons.inj cut
      simp at visible
    | cons d start =>
      obtain ⟨rfl, -⟩ := List.cons.inj cut
      simp [visible]
  | cons i indent ih =>
    rw [List.mem_cons, not_or] at single
    cases start with
    | nil =>
      obtain ⟨same, -⟩ := List.cons.inj cut
      exact absurd same single.1
    | cons d start =>
      rw [blank_cons, not_and]
      exact fun _ => ih single.2 (List.cons.inj cut).2

theorem IsGap.of_indent {gap indent : List Char} (blank : Blank gap) (ended : gap = [] ∨ gap.getLast? = some '\n')
    (single : '\n' ∉ indent) {c : Char} (visible : isBlank c = false) (tail : List Char) :
    IsGap (gap ++ (indent ++ c :: tail)) gap (indent ++ c :: tail) where
  parts := rfl
  blank := blank
  whole none := by simp [visible] at none
  ended _ := ended
  longest := by
    intro start rest cut startBlank
    by_contra short
    -- a run that reaches beyond the gap has its break on the line that follows
    obtain ⟨more, rfl, seam⟩ | ⟨more, rfl, seam⟩ := List.append_eq_append_iff.mp cut
    · cases more with
      | nil => exact not_blank_of_indent single visible tail (show [] ++ '\n' :: rest = indent ++ c :: tail from seam) Blank.nil
      | cons d more => simp at short
    · exact not_blank_of_indent single visible tail seam.symm (blank_append.mp startBlank).2

theorem not_blank_firstLine {indent : List Char} (single : '\n' ∉ indent) {c : Char} (visible : isBlank c = false)
    (tail : List Char) : ¬ Blank ((indent ++ c :: tail).takeWhile (· ≠ '\n')) := by
  have inside : ∀ i ∈ indent, decide (i ≠ '\n') = true := fun i member =>
    decide_eq_true fun same => single (same ▸ member)
  have other : c ≠ '\n' := by
    rintro rfl
    simp at visible
  rw [List.takeWhile_append_of_pos inside, List.takeWhile_cons, if_pos (decide_eq_true other),
    blank_append, blank_cons]
  simp [visible]

theorem blank_firstLine {gap : List Char} (blank : Blank gap) (last : gap.getLast? = some '\n') (rest : List Char) :
    Blank ((gap ++ rest).takeWhile (· ≠ '\n')) := by
  obtain ⟨start, rfl⟩ := List.getLast?_eq_some_iff.mp last
  rw [List.append_assoc, List.singleton_append, List.takeWhile_append]
  split
  · simpa using (blank_append.mp blank).1
  · exact fun c member => (blank_append.mp blank).1 c (List.takeWhile_subset _ member)

/-- `gap?` cuts the blanks at the start of a text after their last line break. -/
theorem gap?_of_visible {text tail : List Char} {c : Char} (stop : text.dropWhile isBlank = c :: tail) :
    ∃ gap indent, text = gap ++ (indent ++ c :: tail) ∧ Blank gap ∧ (gap = [] ∨ gap.getLast? = some '\n') ∧
      '\n' ∉ indent ∧ isBlank c = false ∧
      gap? text = if gap.isEmpty then none else some (gap, indent ++ c :: tail) := by
  let run := text.takeWhile isBlank
  refine ⟨(run.reverse.dropWhile (· ≠ '\n')).reverse, (run.reverse.takeWhile (· ≠ '\n')).reverse,
    ?parts, ?blank, ?ended, ?single, ?visible, ?found⟩
  case parts =>
    rw [← List.append_assoc, ← List.reverse_append, List.takeWhile_append_dropWhile, List.reverse_reverse, ← stop]
    exact List.takeWhile_append_dropWhile.symm
  case blank =>
    intro d member
    exact List.mem_takeWhile_imp (List.mem_reverse.mp (List.dropWhile_subset _ (List.mem_reverse.mp member)))
  case ended =>
    rw [List.getLast?_reverse, List.reverse_eq_nil_iff]
    have last := List.head?_dropWhile_not (· ≠ '\n') run.reverse
    cases cut : run.reverse.dropWhile (· ≠ '\n') with
    | nil => exact .inl rfl
    | cons d rest =>
      rw [cut] at last
      exact .inr (by simpa using last)
  case single =>
    intro member
    have other := List.mem_takeWhile_imp (List.mem_reverse.mp member)
    simp at other
  case visible =>
    have other := List.head?_dropWhile_not isBlank text
    simpa [stop] using other
  case found =>
    rw [gap?, stop]
    rfl

/-- There is a gap if only blanks stand on the first line. -/
theorem gap?_of_blank {text : List Char} (blank : Blank (text.takeWhile (· ≠ '\n'))) :
    ∃ gap body, gap? text = some (gap, body) ∧ IsGap text gap body := by
  cases stop : text.dropWhile isBlank with
  | nil => exact ⟨text, [], by simp [gap?, stop], .of_blank (List.dropWhile_eq_nil_iff.mp stop)⟩
  | cons c tail =>
    obtain ⟨gap, indent, rfl, gapBlank, ended, single, visible, found⟩ := gap?_of_visible stop
    have nonempty : gap ≠ [] := by
      rintro rfl
      exact not_blank_firstLine single visible tail blank
    exact ⟨gap, indent ++ c :: tail, by simp [found, nonempty], .of_indent gapBlank ended single visible tail⟩

theorem gap?_of_not_blank {text : List Char} (visible : ¬ Blank (text.takeWhile (· ≠ '\n'))) : gap? text = none := by
  cases stop : text.dropWhile isBlank with
  | nil =>
    have blank : Blank text := List.dropWhile_eq_nil_iff.mp stop
    exact absurd (fun c member => blank c (List.takeWhile_subset _ member)) visible
  | cons c tail =>
    obtain ⟨gap, indent, rfl, gapBlank, ended, -, -, found⟩ := gap?_of_visible stop
    rcases ended with rfl | last
    · simpa using found
    · exact absurd (blank_firstLine gapBlank last _) visible

end Frontmark.Header
