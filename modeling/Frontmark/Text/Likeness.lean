import Frontmark.Decimal.Double

/-! How alike two words are: Jaro's measure.

It is the mean of three quotients, each step of which is rounded to a number of double precision, so that what is
near the threshold is decided in one way everywhere. -/

set_option autoImplicit false

namespace Frontmark.Text.Likeness

open Frontmark.Decimal

/-- The number of double precision that is nearest to a number that is not negative. -/
def rounded (x : Rat) : Rat :=
  match Double.nearest? false x.num.toNat x.den with
  | some (.finite _ mantissa exponent) => mantissa * 2 ^ exponent
  | _ => 0

/-- The first place of a character within bounds that is not taken. -/
def partner? (c : Char) (low high : Nat) (taken : List Nat) (word : List Char) : Option Nat :=
  (word.zipIdx.find? fun (d, j) => low ≤ j && j < high && c = d && !taken.contains j).map (·.2)

/-- Pair the characters of a word, from its place `i` on, with equal ones of the other word that are no more than
`range` places away; the places of a pair are `(place, other place)`. -/
def pairs (range : Nat) (other : List Char) : (i : Nat) → (taken : List (Nat × Nat)) → List Char → List (Nat × Nat)
  | _, taken, [] => taken
  | i, taken, c :: word =>
    match partner? c (i - range) (i + range + 1) (taken.map (·.2)) other with
    | some j => pairs range other (i + 1) (taken ++ [(i, j)]) word
    | none => pairs range other (i + 1) taken word

/-- How alike two words are, between zero and one. -/
def likeness (a b : List Char) : Rat :=
  if a.isEmpty && b.isEmpty then 1
  else
    let found := pairs (max a.length b.length / 2 - 1) b 0 [] a
    if found.isEmpty then 0
    else
      let ofA := found.filterMap fun (i, _) => a[i]?
      let places := found.map (·.2)
      let ofB := (b.zipIdx.filter fun (_, j) => places.contains j).map (·.1)
      let transpositions := ((ofA.zip ofB).countP fun (x, y) => x ≠ y) / 2
      let n := found.length
      let parts := rounded (rounded (n / a.length) + rounded (n / b.length))
      rounded (rounded (parts + rounded ((n - transpositions : Nat) / n)) / 3)

/-- Words that are not less alike than this are offered in place of one that is not known. -/
def threshold : Rat :=
  rounded (7 / 10)

/-- The words that are like a word, the one that is most alike at the end. -/
def similar (word : String) (words : List String) : List String :=
  let rated := (words.map fun w => (likeness word.toList w.toList, w)).filter fun (x, _) => threshold < x
  (rated.mergeSort fun (x, _) (y, _) => x ≤ y).map (·.2)

end Frontmark.Text.Likeness
