import Frontmark.Settings.Key

/-! What is found in tables of settings, after some of it has been set. -/

set_option autoImplicit false

namespace Frontmark.Settings.Value

open Frontmark.Text (lowerCase)

/-- The value at the end of a path of names. -/
def find? : List String → Value → Option Value
  | [], v => some v
  | name :: path, table _ fields => (fields.lookup name).bind (find? path)
  | _ :: _, _ => none

variable {name : String} {path : List String} {v found target : Value}

theorem find?_cons_eq_some :
    v.find? (name :: path) = some found ↔
      ∃ file fields inner, v = table file fields ∧ fields.lookup name = some inner ∧ inner.find? path = some found := by
  constructor
  · intro there
    cases v with
    | table file fields =>
      obtain ⟨inner, looked, inside⟩ := Option.bind_eq_some_iff.mp there
      exact ⟨file, fields, inner, rfl, looked, inside⟩
    | _ => cases there
  · rintro ⟨file, fields, inner, rfl, looked, inside⟩
    rw [find?, looked, Option.bind_some, inside]

section Alter

variable {change : Option Value → Value} {file : Option String} {fields : List (String × Value)}

theorem lookup_cons_eq (name other : String) (v : Value) (fields : List (String × Value)) :
    ((name, v) :: fields).lookup other = if other = name then some v else fields.lookup other := by
  by_cases same : other = name
  · simp [same]
  · simp [List.lookup_cons, beq_eq_false_iff_ne.mpr same, same]

theorem lookup_alter (name other : String) (change : Option Value → Value) (fields : List (String × Value)) :
    (alter name change fields).lookup other =
      if other = name then some (change (fields.lookup name)) else fields.lookup other := by
  induction fields with
  | nil => exact lookup_cons_eq ..
  | cons field fields ih =>
    obtain ⟨k, v⟩ := field
    by_cases here : k = name
    · subst here
      by_cases same : other = k <;> simp [alter, lookup_cons_eq, same]
    · have skipped : name ≠ k := fun same => here same.symm
      by_cases same : other = k
      · subst same
        simp [alter, here]
      · simp [alter, lookup_cons_eq, here, skipped, same, ih]

theorem find?_alterField_same :
    (alterField name change target).find? (name :: path) = (change (target.find? [name])).find? path := by
  cases target <;> simp [alterField, find?, lookup_alter]

theorem find?_alterField_of_ne {other : String} (different : other ≠ name)
    (there : target.find? (other :: path) = some found) :
    (alterField name change target).find? (other :: path) = some found := by
  obtain ⟨file, fields, inner, rfl, looked, inside⟩ := find?_cons_eq_some.mp there
  simp [alterField, find?, lookup_alter, different, looked, inside]

end Alter

/-- Lay a value over another one, which stays but for the fields that are given anew. -/
def lay (v target : Value) : Value :=
  match v with
  | table _ fields => setFields fields target
  | v => v

theorem setField_eq (name : String) (v target : Value) :
    setField name v target = alterField (lowerCase name) (fun old => lay v (old.getD (table none []))) target := by
  cases v <;> rfl

theorem find?_setField_same (lower : lowerCase name = name) {old : Value} (there : target.find? [name] = some old) :
    (setField name v target).find? (name :: path) = (lay v old).find? path := by
  rw [setField_eq, lower, find?_alterField_same, there, Option.getD_some]

theorem find?_setField_of_ne {other : String} (lower : lowerCase name = name) (different : other ≠ name)
    (there : target.find? (other :: path) = some found) : (setField name v target).find? (other :: path) = some found := by
  rw [setField_eq, lower]
  exact find?_alterField_of_ne different there

section SetFrom

variable {steps : List String}

theorem find?_setFrom_same {b : Bool} (lower : ∀ n ∈ name :: steps, lowerCase n = n) :
    (setFrom name (boolean b) (steps.map .field) target).find? (name :: steps) = some (boolean b) := by
  induction steps generalizing name target with
  | nil =>
    rw [List.map_nil, setFrom, setField_eq, lower name (by simp), find?_alterField_same]
    rfl
  | cons inner steps ih =>
    obtain ⟨first, others⟩ := List.forall_mem_cons.mp lower
    rw [List.map_cons, setFrom, first, find?_alterField_same]
    exact ih others

/-- A value is set without a change to what is on other paths. -/
theorem find?_setFrom_of_ne (lower : ∀ n ∈ name :: steps, lowerCase n = n) (below : ¬ name :: steps <+: path)
    (above : ¬ path <+: name :: steps) (there : target.find? path = some found) :
    (setFrom name v (steps.map .field) target).find? path = some found := by
  induction steps generalizing name path target with
  | nil =>
    obtain _ | ⟨other, path⟩ := path
    · exact absurd List.nil_prefix above
    · refine find?_setField_of_ne (lower name (by simp)) ?_ there
      rintro rfl
      exact below (by simp)
  | cons inner steps ih =>
    obtain ⟨first, others⟩ := List.forall_mem_cons.mp lower
    obtain _ | ⟨other, path⟩ := path
    · exact absurd List.nil_prefix above
    · rw [List.map_cons, setFrom, first]
      by_cases same : other = name
      · subst same
        obtain ⟨file, fields, old, rfl, looked, inside⟩ := find?_cons_eq_some.mp there
        rw [List.cons_prefix_cons] at below above
        rw [find?_alterField_same, show find? [other] (table file fields) = some old by simp [find?, looked]]
        exact ih others (fun inner => below ⟨rfl, inner⟩) (fun inner => above ⟨rfl, inner⟩) inside
      · exact find?_alterField_of_ne same there

end SetFrom

end Frontmark.Settings.Value
