import Frontmark.Inline.Emphasis
import Mathlib.Data.List.Induction

/-! Pairing of delimiters where every run can either only open something or only close something.

`Pairs` says which trees come of some pieces wherever they stand. -/

set_option autoImplicit false

namespace Frontmark.Inline

open Frontmark.Markup (RoseTree Value)

/-- Passing the pieces makes `trees` of them, whatever stands before and after them. -/
def Pairs (pieces : List Piece) (trees : List (RoseTree Value)) : Prop :=
  ∃ n, n ≤ pairingSteps pieces ∧ ∀ m before after,
    Pairing.run (n + m) ⟨before, pieces ++ after, []⟩ = Pairing.run m ⟨(trees.map Piece.tree).reverse ++ before, after, []⟩

variable {pieces others : List Piece} {trees more : List (RoseTree Value)}

theorem pairingSteps_append (pieces others : List Piece) :
    pairingSteps (pieces ++ others) = pairingSteps pieces + pairingSteps others := by
  induction pieces with
  | nil => simp [pairingSteps]
  | cons piece pieces ih => cases piece <;> simp [pairingSteps, ih, Nat.add_assoc]

theorem Pairs.nil : Pairs [] [] :=
  ⟨0, Nat.zero_le _, fun m before after => by rw [Nat.zero_add]; rfl⟩

theorem Pairs.append (first : Pairs pieces trees) (second : Pairs others more) : Pairs (pieces ++ others) (trees ++ more) := by
  obtain ⟨n, short, runs⟩ := first
  obtain ⟨k, short', runs'⟩ := second
  refine ⟨n + k, by rw [pairingSteps_append]; omega, fun m before after => ?_⟩
  rw [Nat.add_assoc, List.append_assoc, runs, runs', List.map_append, List.reverse_append, List.append_assoc]

theorem Pairs.of_tree (t : RoseTree Value) : Pairs [.tree t] [t] :=
  ⟨1, Nat.le_refl _, fun m before after => by rw [Nat.add_comm]; rfl⟩

theorem Pairs.of_trees (trees : List (RoseTree Value)) : Pairs (trees.map Piece.tree) trees := by
  induction trees with
  | nil => exact .nil
  | cons t trees ih => exact (Pairs.of_tree t).append ih

theorem Pairs.pair_eq (pairs : Pairs pieces trees) : pair pieces = trees := by
  obtain ⟨n, short, runs⟩ := pairs
  obtain ⟨m, whole⟩ := Nat.exists_eq_add_of_le short
  have ended : Pairing.run m ⟨(trees.map Piece.tree).reverse ++ [], [], []⟩ = ⟨(trees.map Piece.tree).reverse, [], []⟩ := by
    rw [List.append_nil]
    cases m <;> rfl
  have run := runs m [] []
  rw [List.append_nil, ended] at run
  rw [pair, whole, run]
  simp [Function.comp_def, Piece.settled]

section Starred

/-- A run of one or two stars. -/
def starRun (count : Nat) (opens : Bool) (position : Nat) : Run :=
  ⟨'*', List.replicate count '*', count, opens, !opens, position⟩

theorem findOpener_trees (closer : Run) (floor : Nat) (odd : Bool) (trees : List (RoseTree Value))
    (between pieces : List Piece) :
    findOpener closer floor odd between ((trees.map Piece.tree).reverse ++ pieces) =
      findOpener closer floor odd (trees.map Piece.tree ++ between) pieces := by
  induction trees using List.reverseRecOn generalizing between with
  | nil => rfl
  | append_singleton trees t ih =>
    rw [List.map_append, List.map_singleton, List.reverse_append, List.reverse_singleton, List.singleton_append,
      List.cons_append, findOpener, ih, List.append_assoc, List.singleton_append]
    exact nofun

variable {count : Nat}

theorem close_star (single : count = 1 ∨ count = 2) (p q : Nat) (before after : List Piece) :
    Pairing.close ⟨(trees.map Piece.tree).reverse ++ .run (starRun count true p) :: before, [], []⟩
        (starRun count false q) after =
      some ⟨.tree (.node (construct '*' count) trees) :: before, after, []⟩ := by
  have found : findOpener (starRun count false q) (Floors.floor [] (starRun count false q).class) false []
      ((trees.map Piece.tree).reverse ++ .run (starRun count true p) :: before) =
        .found ⟨trees.map Piece.tree, starRun count true p, before⟩ := by
    rw [findOpener_trees, List.append_nil, findOpener]
    simp [Floors.floor, starRun, oddMatch]
  have settled : (trees.map Piece.tree).map Piece.settled = trees := by
    simp [Function.comp_def, Piece.settled]
  have whole : used (starRun count true p) (starRun count false q) = count := by
    obtain rfl | rfl := single <;> rfl
  rw [Pairing.close, Pairing.search, found]
  simp only [whole, settled]
  simp [mismatched, starRun, Run.shorten]

theorem Pairs.starred (single : count = 1 ∨ count = 2) (p q : Nat) (trees : List (RoseTree Value)) :
    Pairs (.run (starRun count true p) :: trees.map Piece.tree ++ [.run (starRun count false q)])
      [.node (construct '*' count) trees] := by
  obtain ⟨k, short, runs⟩ := Pairs.of_trees trees
  refine ⟨1 + (k + 1), ?_, fun m before after => ?_⟩
  · rw [List.cons_append, pairingSteps, pairingSteps_append]
    simp only [pairingSteps, starRun, List.length_replicate]
    omega
  · have opening (m : Nat) : Pairing.run (1 + m) ⟨before, .run (starRun count true p) ::
        (trees.map Piece.tree ++ (.run (starRun count false q) :: after)), []⟩ =
        Pairing.run m ⟨.run (starRun count true p) :: before,
          trees.map Piece.tree ++ (.run (starRun count false q) :: after), []⟩ := by
      rw [Nat.add_comm]
      rfl
    have closing : Pairing.step ⟨(trees.map Piece.tree).reverse ++ .run (starRun count true p) :: before,
        .run (starRun count false q) :: after, []⟩ =
        some ⟨.tree (.node (construct '*' count) trees) :: before, after, []⟩ :=
      close_star single p q before after
    rw [List.cons_append, List.cons_append, List.append_assoc, List.singleton_append, Nat.add_assoc, opening,
      Nat.add_assoc, runs, Nat.add_comm 1, Pairing.run, closing]
    rfl

end Starred

end Frontmark.Inline
