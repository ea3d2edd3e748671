import Frontmark.Proofs.Markup.Tokens

/-! Reading content back from its tokens.

Emphasis is written by a star on either side and strong emphasis by two, so a run of stars does not say by itself
what it opens and what it closes. Main statement: in clear content all runs together do (`eq_of_tokensAll_eq`). -/

set_option autoImplicit false

namespace Frontmark.Markup

open RoseTree (mapAll tokens tokensAll sizeAll)

variable {e s : Bool} {n : Nat} {x y : RoseTree Value} {xs ys : List (RoseTree Value)} {u v : List Token}

/-- Content without stars of its own. -/
inductive Atom : RoseTree Value → Prop where
  | text (literal : String) : Atom (.node (.text literal) [])
  | code (literal : String) (ticks : Nat) : Atom (.node (.code literal ticks) [])
  | link (url : String) {cs : List (RoseTree Value)} : Inlines true false false cs → Atom (.node (.link url "") cs)

/-- What clear content begins with. -/
theorem Inlines.cases_cons (content : Inlines true e s (x :: xs)) :
    Inlines true e s xs ∧
      ((Atom x ∧ x.isEmph = false) ∨
        (∃ cs, x = .node .emph cs ∧ cs ≠ [] ∧ e = false ∧ ¬ xs.head?.any RoseTree.isEmph ∧ Inlines true true s cs) ∨
        ∃ cs, x = .node .strong cs ∧ cs ≠ [] ∧ s = false ∧ (∀ ds, cs ≠ [.node .emph ds]) ∧ Inlines true e true cs) := by
  cases content with
  | text _ _ _ _ rest => exact ⟨rest, .inl ⟨.text _, rfl⟩⟩
  | code _ _ _ rest => exact ⟨rest, .inl ⟨.code _ _, rfl⟩⟩
  | link _ _ inner rest => exact ⟨rest, .inl ⟨.link _ inner, rfl⟩⟩
  | emph some_ apart inner rest => exact ⟨rest, .inr (.inl ⟨_, rfl, some_, (apart rfl).1, (apart rfl).2, inner⟩)⟩
  | strong some_ apart inner rest => exact ⟨rest, .inr (.inr ⟨_, rfl, some_, (apart rfl).1, (apart rfl).2, inner⟩)⟩

/-- Whether the token is the first one of an atom. -/
def Token.begins : Token → Bool
  | text _ | code _ | opening => true
  | star | closing _ => false

theorem Atom.tokensAll_ne (atom : Atom x) {t : Token} (other : t.begins = false) :
    tokensAll (x :: xs) ++ u ≠ t :: v := by
  rintro same
  rw [tokensAll] at same
  cases atom <;> cases (List.cons.inj same).1 <;> cases other

theorem tokensAll_cons_emph (cs xs : List (RoseTree Value)) (u : List Token) :
    tokensAll (.node .emph cs :: xs) ++ u = .star :: (tokensAll cs ++ .star :: (tokensAll xs ++ u)) := by
  simp [tokensAll, tokens]

theorem tokensAll_cons_strong (cs xs : List (RoseTree Value)) (u : List Token) :
    tokensAll (.node .strong cs :: xs) ++ u =
      .star :: .star :: (tokensAll cs ++ .star :: .star :: (tokensAll xs ++ u)) := by
  simp [tokensAll, tokens]

theorem shown_emph (cs : List (RoseTree Value)) :
    (RoseTree.node .emph cs).shown = .node .emph (mapAll Value.shown cs) := rfl

theorem shown_strong (cs : List (RoseTree Value)) :
    (RoseTree.node .strong cs).shown = .node .strong (mapAll Value.shown cs) := rfl

theorem mapAll_cons (t : RoseTree Value) (ts : List (RoseTree Value)) :
    mapAll Value.shown (t :: ts) = t.shown :: mapAll Value.shown ts := rfl

theorem Inlines.inEmph_cons (content : Inlines true true false (x :: xs)) :
    Inlines true true false xs ∧ (Atom x ∨ ∃ cs, x = .node .strong cs ∧ cs ≠ [] ∧ Inlines true true true cs) := by
  obtain ⟨rest, ⟨atom, -⟩ | ⟨_, -, -, outside, -⟩ | ⟨cs, whole, some_, -, -, inner⟩⟩ := content.cases_cons
  · exact ⟨rest, .inl atom⟩
  · cases outside
  · exact ⟨rest, .inr ⟨cs, whole, some_, inner⟩⟩

theorem Inlines.inStrong_cons (content : Inlines true false true (x :: xs)) :
    Inlines true false true xs ∧
      (Atom x ∨ ∃ cs, x = .node .emph cs ∧ cs ≠ [] ∧ ¬ xs.head?.any RoseTree.isEmph ∧ Inlines true true true cs) := by
  obtain ⟨rest, ⟨atom, -⟩ | ⟨cs, whole, some_, -, apart, inner⟩ | ⟨_, -, -, outside, -⟩⟩ := content.cases_cons
  · exact ⟨rest, .inl atom⟩
  · exact ⟨rest, .inr ⟨cs, whole, some_, apart, inner⟩⟩
  · cases outside

/-- Inside emphasis of both kinds there are no more stars. -/
theorem Inlines.deep_cons (deep : Inlines true true true (x :: xs)) : Inlines true true true xs ∧ Atom x := by
  obtain ⟨rest, ⟨atom, -⟩ | ⟨_, -, -, outside, -⟩ | ⟨_, -, -, outside, -⟩⟩ := deep.cases_cons
  · exact ⟨rest, atom⟩
  · cases outside
  · cases outside

theorem Inlines.tokensAll_ne_of_deep (deep : Inlines true true true xs) (some_ : xs ≠ []) :
    tokensAll xs ++ u ≠ .star :: v := by
  cases xs with
  | nil => contradiction
  | cons x xs => exact deep.deep_cons.2.tokensAll_ne rfl

/-- The tokens begin with one star and no second one. -/
def Lone (u : List Token) : Prop :=
  ∃ rest, u = .star :: rest ∧ ∀ more, rest ≠ .star :: more

/-- What ends the content of a paragraph or of a link. -/
def Ends (u : List Token) : Prop :=
  u = [] ∨ ∃ url rest, u = .closing url :: rest

theorem Ends.ne_tokensAll (ends : Ends u) (content : Inlines true e s (x :: xs)) : u ≠ tokensAll (x :: xs) ++ v := by
  intro same
  obtain ⟨-, ⟨atom, -⟩ | ⟨cs, rfl, -⟩ | ⟨cs, rfl, -⟩⟩ := content.cases_cons <;> obtain rfl | ⟨url, rest, rfl⟩ := ends
  · cases atom <;> cases same
  · exact absurd same.symm (atom.tokensAll_ne rfl)
  all_goals cases same

theorem Ends.not_lone (ends : Ends u) (content : Inlines true e s xs) (apart : ¬ xs.head?.any RoseTree.isEmph) :
    ¬ Lone (tokensAll xs ++ u) := by
  rintro ⟨rest, same, single⟩
  cases xs with
  | nil => obtain rfl | ⟨url, rest, rfl⟩ := ends <;> cases same
  | cons x xs =>
    obtain ⟨-, ⟨atom, -⟩ | ⟨cs, rfl, -⟩ | ⟨cs, rfl, -⟩⟩ := content.cases_cons
    · exact absurd same (atom.tokensAll_ne rfl)
    · exact apart rfl
    · rw [tokensAll_cons_strong, List.cons.injEq] at same
      exact single _ same.2.symm

/-- Links with less than `n` nodes inside can be read in one way only. -/
def LinksUnique (n : Nat) : Prop :=
  ∀ {cs ds : List (RoseTree Value)} {url url' : String} {u v : List Token}, sizeAll cs < n →
    Inlines true false false cs → Inlines true false false ds →
    tokensAll cs ++ .closing url :: u = tokensAll ds ++ .closing url' :: v →
    mapAll Value.shown cs = mapAll Value.shown ds ∧ url = url' ∧ u = v

section Nested

variable (links : LinksUnique n)
include links

theorem atom_unique (left : Atom x) (right : Atom y) (small : x.size ≤ n) (same : tokens x ++ u = tokens y ++ v) :
    x.shown = y.shown ∧ u = v := by
  cases left with
  | text literal =>
    cases right with
    | text literal' => simpa [tokens, RoseTree.shown, RoseTree.map, Value.shown] using same
    | code | link => simp [tokens] at same
  | code literal ticks =>
    cases right with
    | code literal' ticks' => simpa [tokens, RoseTree.shown, RoseTree.map, Value.shown] using same
    | text | link => simp [tokens] at same
  | link url inner =>
    cases right with
    | link url' inner' =>
      simp only [tokens, List.cons_append, List.append_assoc, List.nil_append, List.cons.injEq, true_and] at same
      obtain ⟨shown, rfl, rfl⟩ := links (by rw [RoseTree.size] at small; omega) inner inner' same
      simp [RoseTree.shown, RoseTree.map, shown]
    | text | code => simp [tokens] at same

theorem deep_unique (left : Inlines true true true xs) (right : Inlines true true true ys) (small : sizeAll xs ≤ n)
    (same : tokensAll xs ++ .star :: u = tokensAll ys ++ .star :: v) :
    mapAll Value.shown xs = mapAll Value.shown ys ∧ u = v := by
  induction xs generalizing ys with
  | nil =>
    cases ys with
    | nil => exact ⟨rfl, (List.cons.inj same).2⟩
    | cons y ys => exact absurd same.symm (right.deep_cons.2.tokensAll_ne rfl)
  | cons x xs ih =>
    cases ys with
    | nil => exact absurd same (left.deep_cons.2.tokensAll_ne rfl)
    | cons y ys =>
      rw [sizeAll] at small
      rw [tokensAll, tokensAll, List.append_assoc, List.append_assoc] at same
      obtain ⟨first, rest⟩ := atom_unique links left.deep_cons.2 right.deep_cons.2 (by omega) same
      obtain ⟨more, rfl⟩ := ih left.deep_cons.1 right.deep_cons.1 (by omega) rest
      exact ⟨by rw [mapAll_cons, mapAll_cons, first, more], rfl⟩

/-- In emphasis the stars come in pairs, but for the one that ends it. -/
theorem emph_unique (left : Inlines true true false xs) (right : Inlines true true false ys) (small : sizeAll xs ≤ n)
    (hu : ¬ Lone u) (hv : ¬ Lone v) (same : tokensAll xs ++ .star :: u = tokensAll ys ++ .star :: v) :
    mapAll Value.shown xs = mapAll Value.shown ys ∧ u = v := by
  have ended {y : RoseTree Value} {ys : List (RoseTree Value)} {u v : List Token}
      (content : Inlines true true false (y :: ys)) (hu : ¬ Lone u) : .star :: u ≠ tokensAll (y :: ys) ++ .star :: v := by
    intro same
    obtain ⟨-, atom | ⟨cs, rfl, some_, inner⟩⟩ := content.inEmph_cons
    · exact absurd same.symm (atom.tokensAll_ne rfl)
    · rw [tokensAll_cons_strong, List.cons.injEq] at same
      exact hu ⟨_, same.2, fun more => inner.tokensAll_ne_of_deep some_⟩
  induction xs generalizing ys with
  | nil =>
    cases ys with
    | nil => exact ⟨rfl, (List.cons.inj same).2⟩
    | cons y ys => exact absurd same (ended right hu)
  | cons x xs ih =>
    cases ys with
    | nil => exact absurd same.symm (ended left hv)
    | cons y ys =>
      rw [sizeAll] at small
      obtain ⟨leftRest, atom | ⟨cs, rfl, -, inner⟩⟩ := left.inEmph_cons <;>
        obtain ⟨rightRest, atom' | ⟨ds, rfl, -, inner'⟩⟩ := right.inEmph_cons
      · rw [tokensAll, tokensAll, List.append_assoc, List.append_assoc] at same
        obtain ⟨first, rest⟩ := atom_unique links atom atom' (by omega) same
        obtain ⟨more, rfl⟩ := ih leftRest rightRest (by omega) rest
        exact ⟨by rw [mapAll_cons, mapAll_cons, first, more], rfl⟩
      · rw [tokensAll_cons_strong] at same
        exact absurd same (atom.tokensAll_ne rfl)
      · rw [tokensAll_cons_strong] at same
        exact absurd same.symm (atom'.tokensAll_ne rfl)
      · rw [RoseTree.size] at small
        rw [tokensAll_cons_strong, tokensAll_cons_strong, List.cons.injEq, List.cons.injEq] at same
        obtain ⟨first, rest⟩ := deep_unique links inner inner' (by omega) same.2.2
        obtain ⟨more, rfl⟩ := ih leftRest rightRest (by omega) (List.cons.inj rest).2
        exact ⟨by rw [mapAll_cons, mapAll_cons, shown_strong, shown_strong, first, more], rfl⟩

theorem strong_unique (left : Inlines true false true xs) (right : Inlines true false true ys) (small : sizeAll xs ≤ n)
    (same : tokensAll xs ++ .star :: .star :: u = tokensAll ys ++ .star :: .star :: v) :
    mapAll Value.shown xs = mapAll Value.shown ys ∧ u = v := by
  have ended {y : RoseTree Value} {ys : List (RoseTree Value)} {u v : List Token}
      (content : Inlines true false true (y :: ys)) : .star :: .star :: u ≠ tokensAll (y :: ys) ++ .star :: .star :: v := by
    intro same
    obtain ⟨-, atom | ⟨cs, rfl, some_, -, inner⟩⟩ := content.inStrong_cons
    · exact absurd same.symm (atom.tokensAll_ne rfl)
    · rw [tokensAll_cons_emph, List.cons.injEq] at same
      exact absurd same.2.symm (inner.tokensAll_ne_of_deep some_)
  induction xs generalizing ys with
  | nil =>
    cases ys with
    | nil => exact ⟨rfl, (List.cons.inj (List.cons.inj same).2).2⟩
    | cons y ys => exact absurd same (ended right)
  | cons x xs ih =>
    cases ys with
    | nil => exact absurd same.symm (ended left)
    | cons y ys =>
      rw [sizeAll] at small
      obtain ⟨leftRest, atom | ⟨cs, rfl, -, -, inner⟩⟩ := left.inStrong_cons <;>
        obtain ⟨rightRest, atom' | ⟨ds, rfl, -, -, inner'⟩⟩ := right.inStrong_cons
      · rw [tokensAll, tokensAll, List.append_assoc, List.append_assoc] at same
        obtain ⟨first, rest⟩ := atom_unique links atom atom' (by omega) same
        obtain ⟨more, rfl⟩ := ih leftRest rightRest (by omega) rest
        exact ⟨by rw [mapAll_cons, mapAll_cons, first, more], rfl⟩
      · rw [tokensAll_cons_emph] at same
        exact absurd same (atom.tokensAll_ne rfl)
      · rw [tokensAll_cons_emph] at same
        exact absurd same.symm (atom'.tokensAll_ne rfl)
      · rw [RoseTree.size] at small
        rw [tokensAll_cons_emph, tokensAll_cons_emph, List.cons.injEq] at same
        obtain ⟨first, rest⟩ := deep_unique links inner inner' (by omega) same.2
        obtain ⟨more, rfl⟩ := ih leftRest rightRest (by omega) rest
        exact ⟨by rw [mapAll_cons, mapAll_cons, shown_emph, shown_emph, first, more], rfl⟩

/-- Two stars open strong emphasis, unless there are three of them: then the strong emphasis would be all there is
inside of the other one. -/
theorem emph_ne_strong {cs ds : List (RoseTree Value)} (left : Inlines true true false cs)
    (right : Inlines true false true ds) (small : sizeAll cs ≤ n ∨ sizeAll ds ≤ n) (leftSome : cs ≠ []) (rightSome : ds ≠ [])
    (more : ∀ es, ds ≠ [.node .emph es]) :
    tokensAll cs ++ .star :: u ≠ .star :: (tokensAll ds ++ .star :: .star :: v) := by
  intro same
  obtain ⟨c, cs, rfl⟩ := List.exists_cons_of_ne_nil leftSome
  obtain ⟨d, ds, rfl⟩ := List.exists_cons_of_ne_nil rightSome
  rw [sizeAll, sizeAll] at small
  obtain ⟨-, atom | ⟨es, rfl, some_, inner⟩⟩ := left.inEmph_cons
  · exact absurd same (atom.tokensAll_ne rfl)
  · rw [tokensAll_cons_strong, List.cons.injEq] at same
    obtain ⟨rightRest, atom' | ⟨fs, rfl, -, apart, inner'⟩⟩ := right.inStrong_cons
    · exact absurd same.2.symm (atom'.tokensAll_ne rfl)
    · rw [RoseTree.size, RoseTree.size] at small
      rw [tokensAll_cons_emph, List.cons.injEq] at same
      have rest : .star :: (tokensAll cs ++ .star :: u) = tokensAll ds ++ .star :: .star :: v := by
        obtain small | small := small
        · exact (deep_unique links inner inner' (by omega) same.2.2).2
        · exact (deep_unique links inner' inner (by omega) same.2.2.symm).2.symm
      -- one star is left of the two that end the strong emphasis, where content of the other would have to go on
      cases ds with
      | nil => exact more fs rfl
      | cons d ds =>
        obtain ⟨-, atom' | ⟨_, rfl, -⟩⟩ := rightRest.inStrong_cons
        · exact absurd rest.symm (atom'.tokensAll_ne rfl)
        · exact apart rfl

theorem content_unique (left : Inlines true false false xs) (right : Inlines true false false ys)
    (small : sizeAll xs ≤ n) (hu : Ends u) (hv : Ends v) (same : tokensAll xs ++ u = tokensAll ys ++ v) :
    mapAll Value.shown xs = mapAll Value.shown ys ∧ u = v := by
  induction xs generalizing ys with
  | nil =>
    cases ys with
    | nil => exact ⟨rfl, same⟩
    | cons y ys => exact absurd same (hu.ne_tokensAll right)
  | cons x xs ih =>
    cases ys with
    | nil => exact absurd same.symm (hv.ne_tokensAll left)
    | cons y ys =>
      rw [sizeAll] at small
      obtain ⟨leftRest, ⟨atom, -⟩ | ⟨cs, rfl, some_, -, apart, inner⟩ | ⟨cs, rfl, some_, -, more, inner⟩⟩ := left.cases_cons <;>
        obtain ⟨rightRest, ⟨atom', -⟩ | ⟨ds, rfl, some', -, apart', inner'⟩ | ⟨ds, rfl, some', -, more', inner'⟩⟩ :=
          right.cases_cons
      · rw [tokensAll, tokensAll, List.append_assoc, List.append_assoc] at same
        obtain ⟨first, rest⟩ := atom_unique links atom atom' (by omega) same
        obtain ⟨more, rfl⟩ := ih leftRest rightRest (by omega) rest
        exact ⟨by rw [mapAll_cons, mapAll_cons, first, more], rfl⟩
      · rw [tokensAll_cons_emph] at same
        exact absurd same (atom.tokensAll_ne rfl)
      · rw [tokensAll_cons_strong] at same
        exact absurd same (atom.tokensAll_ne rfl)
      · rw [tokensAll_cons_emph] at same
        exact absurd same.symm (atom'.tokensAll_ne rfl)
      · rw [RoseTree.size] at small
        rw [tokensAll_cons_emph, tokensAll_cons_emph, List.cons.injEq] at same
        obtain ⟨first, rest⟩ := emph_unique links inner inner' (by omega) (hu.not_lone leftRest apart)
          (hv.not_lone rightRest apart') same.2
        obtain ⟨more, rfl⟩ := ih leftRest rightRest (by omega) rest
        exact ⟨by rw [mapAll_cons, mapAll_cons, shown_emph, shown_emph, first, more], rfl⟩
      · rw [RoseTree.size] at small
        rw [tokensAll_cons_emph, tokensAll_cons_strong, List.cons.injEq] at same
        exact absurd same.2 (emph_ne_strong links inner inner' (.inl (by omega)) some_ some' more')
      · rw [tokensAll_cons_strong] at same
        exact absurd same.symm (atom'.tokensAll_ne rfl)
      · rw [RoseTree.size] at small
        rw [tokensAll_cons_strong, tokensAll_cons_emph, List.cons.injEq] at same
        exact absurd same.2.symm (emph_ne_strong links inner' inner (.inr (by omega)) some' some_ more)
      · rw [RoseTree.size] at small
        rw [tokensAll_cons_strong, tokensAll_cons_strong, List.cons.injEq, List.cons.injEq] at same
        obtain ⟨first, rest⟩ := strong_unique links inner inner' (by omega) same.2.2
        obtain ⟨more, rfl⟩ := ih leftRest rightRest (by omega) rest
        exact ⟨by rw [mapAll_cons, mapAll_cons, shown_strong, shown_strong, first, more], rfl⟩

end Nested

theorem linksUnique (n : Nat) : LinksUnique n := by
  induction n with
  | zero => exact fun small => absurd small (Nat.not_lt_zero _)
  | succ n links =>
    intro cs ds url url' u v small left right same
    obtain ⟨shown, ends⟩ := content_unique links left right (by omega) (.inr ⟨url, u, rfl⟩) (.inr ⟨url', v, rfl⟩) same
    rw [List.cons.injEq, Token.closing.injEq] at ends
    exact ⟨shown, ends⟩

/-- Clear content is told by its tokens. -/
theorem eq_of_tokensAll_eq (left : Inlines true false false xs) (right : Inlines true false false ys)
    (same : tokensAll xs = tokensAll ys) : mapAll Value.shown xs = mapAll Value.shown ys := by
  refine (content_unique (linksUnique (sizeAll xs)) left right (Nat.le_refl _) (u := []) (v := []) (.inl rfl) (.inl rfl) ?_).1
  rw [List.append_nil, List.append_nil, same]

end Frontmark.Markup
