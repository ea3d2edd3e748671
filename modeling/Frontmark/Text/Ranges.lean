/-! Sets of characters given as a sorted table of ranges of code points. -/

set_option autoImplicit false

namespace Frontmark.Text

/-- Disjoint ranges in increasing order; both ends of a range belong to it. -/
structure Ranges where
  bounds : Array (Nat × Nat)

/-- Halve the part of the table between `low` and `high` that can still hold `code`.
A search needs one step per halving, so the table's size is more than enough. -/
def Ranges.search (table : Ranges) (code : Nat) : (steps low high : Nat) → Bool
  | 0, _, _ => false
  | steps + 1, low, high =>
    if high ≤ low then false
    else
      let middle := (low + high) / 2
      match table.bounds[middle]? with
      | none => false
      | some (first, last) =>
        if code < first then table.search code steps low middle
        else if last < code then table.search code steps (middle + 1) high
        else true

def Ranges.contains (table : Ranges) (c : Char) : Bool :=
  table.search c.toNat table.bounds.size 0 table.bounds.size

end Frontmark.Text
