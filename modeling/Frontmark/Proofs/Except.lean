import Mathlib.Tactic.SplitIfs

/-! Computations that can fail: those that have not, and two of which either both fail or neither does. -/

set_option autoImplicit false

namespace Frontmark

variable {ε α β : Type}

theorem eq_ok_of_toOption {x : Except ε α} {a : α} (found : x.toOption = some a) : x = .ok a := by
  cases x with
  | error cause => cases found
  | ok b => exact congrArg Except.ok (Option.some.inj found)

@[simp] theorem ok_bind (a : α) (next : α → Except ε β) : ((Except.ok a : Except ε α) >>= next) = next a :=
  rfl

theorem exists_of_bind_eq_ok {x : Except ε α} {next : α → Except ε β} {b : β} (ok : (x >>= next) = .ok b) :
    ∃ a, x = .ok a ∧ next a = .ok b := by
  cases x with
  | error cause => cases ok
  | ok a => exact ⟨a, rfl, ok⟩

theorem exists_of_map_eq_ok {x : Except ε α} {f : α → β} {b : β} (ok : x.map f = .ok b) : ∃ a, x = .ok a ∧ f a = b := by
  cases x with
  | error cause => cases ok
  | ok a => exact ⟨a, rfl, Except.ok.inj ok⟩

/-- Whatever a computation gives has the property `P`. -/
def Yields (P : α → Prop) (x : Except ε α) : Prop :=
  ∀ a, x = .ok a → P a

namespace Yields

variable {P : α → Prop} {Q : β → Prop} {x y : Except ε α} {next : α → Except ε β}

theorem ok {a : α} (holds : P a) : Yields P (.ok a : Except ε α) := by
  rintro _ ⟨⟩
  exact holds

theorem error {cause : ε} : Yields P (.error cause : Except ε α) :=
  nofun

theorem bind (first : Yields P x) (others : ∀ a, P a → Yields Q (next a)) : Yields Q (x >>= next) := by
  intro b ok
  obtain ⟨a, done, ok⟩ := exists_of_bind_eq_ok ok
  exact others a (first a done) b ok

/-- What comes first does not matter. -/
theorem bind_last (others : ∀ a, Yields Q (next a)) : Yields Q (x >>= next) :=
  bind (P := fun _ => True) (fun _ _ => trivial) fun a _ => others a

theorem and {Q : α → Prop} (first : Yields P x) (second : Yields Q x) : Yields (fun a => P a ∧ Q a) x :=
  fun a ok => ⟨first a ok, second a ok⟩

theorem mono {Q : α → Prop} (yields : Yields P x) (weaker : ∀ a, P a → Q a) : Yields Q x :=
  fun a ok => weaker a (yields a ok)

theorem ite {p : Prop} [Decidable p] (yes : p → Yields P x) (no : ¬ p → Yields P y) : Yields P (if p then x else y) := by
  split_ifs with holds
  · exact yes holds
  · exact no holds

end Yields

/-- Two computations fail together; if they do not, their results are related. -/
def Agree (R : α → β → Prop) : Except ε α → Except ε β → Prop
  | .ok a, .ok b => R a b
  | .error _, .error _ => True
  | _, _ => False

namespace Agree

variable {γ δ : Type} {R : α → β → Prop} {S : γ → δ → Prop} {x : Except ε α} {y : Except ε β} {a : α} {b : β}

@[simp] theorem error {cause cause' : ε} : Agree R (.error cause) (.error cause') :=
  trivial

theorem mono {R' : α → β → Prop} (agree : Agree R x y) (weaker : ∀ a b, R a b → R' a b) : Agree R' x y := by
  match x, y with
  | .ok a, .ok b => exact weaker a b agree
  | .error _, .error _ => trivial

theorem cases (agree : Agree R x y) :
    (∃ cause cause', x = .error cause ∧ y = .error cause') ∨ ∃ a b, x = .ok a ∧ y = .ok b ∧ R a b := by
  match x, y with
  | .ok a, .ok b => exact .inr ⟨a, b, rfl, rfl, agree⟩
  | .error cause, .error cause' => exact .inl ⟨cause, cause', rfl, rfl⟩

theorem yields (agree : Agree R x y) : Yields (fun a => ∃ b, R a b) x := by
  rintro a rfl
  match y with
  | .ok b => exact ⟨b, agree⟩

theorem and_yields {P : α → Prop} (agree : Agree R x y) (yields : Yields P x) : Agree (fun a b => R a b ∧ P a) x y := by
  match x, y with
  | .ok a, .ok b => exact ⟨agree, yields a rfl⟩
  | .error _, .error _ => trivial

theorem bind {f : α → Except ε γ} {g : β → Except ε δ} (agree : Agree R x y) (next : ∀ a b, R a b → Agree S (f a) (g b)) :
    Agree S (x >>= f) (y >>= g) := by
  match x, y with
  | .ok a, .ok b => exact next a b agree
  | .error _, .error _ => trivial

theorem ite {p q : Prop} [Decidable p] [Decidable q] {x' : Except ε α} {y' : Except ε β} (same : q ↔ p)
    (yes : p → Agree R x y) (no : ¬ p → Agree R x' y') : Agree R (if p then x else x') (if q then y else y') := by
  by_cases holds : p
  · rw [if_pos holds, if_pos (same.mpr holds)]
    exact yes holds
  · rw [if_neg holds, if_neg fun q => holds (same.mp q)]
    exact no holds

end Agree

end Frontmark
