import Frontmark.Markup.Forest

/-! A walk through a forest that keeps nothing but its position.

Each step looks at the forest as it is then, so a walk goes on through a tree that is edited under it.
Undisturbed, a walk from a node visits what `RoseTree.visits` lists. -/

set_option autoImplicit false

namespace Frontmark.Markup

structure Walker where
  root : Nat
  current : Option Nat
  entering : Bool
  deriving DecidableEq, Repr

namespace Walker

def start (root : Nat) : Walker :=
  ⟨root, some root, true⟩

/-- The position after a visit at `place`. -/
def advance (w : Walker) (place : Place) : Walker :=
  if w.entering && place.tree.opens then
    match place.tree.children with
    | child :: _ => { w with current := some child.id }
    | [] => { w with entering := false }
  else if place.tree.id = w.root then { w with current := none }
  else
    match place.next with
    | some sibling => { w with current := some sibling, entering := true }
    | none => { w with current := place.parent, entering := false }

/-- One visit, where `find` knows the places of the nodes. -/
def step (find : Nat → Option Place) (w : Walker) : Option (Visit × Walker) :=
  match w.current.bind find with
  | none => none
  | some place => some (⟨place.tree, w.entering⟩, w.advance place)

/-- At most `limit` visits after those that have been made, the last of which comes first in `made`. -/
def runFrom (find : Nat → Option Place) : (limit : Nat) → (made : List Visit) → Walker → List Visit × Walker
  | 0, made, w => (made.reverse, w)
  | limit + 1, made, w =>
    match w.step find with
    | none => (made.reverse, w)
    | some (visit, next) => runFrom find limit (visit :: made) next

/-- At most `limit` visits, and the walker after them. -/
def run (find : Nat → Option Place) (limit : Nat) (w : Walker) : List Visit × Walker :=
  w.runFrom find limit []

end Walker

/-- All visits of a walk from `root`. No node is visited more than twice. -/
def Forest.visits (f : Forest) (root : Nat) : List Visit :=
  let index := f.index
  ((Walker.start root).run (fun id => (index[id]?).join) (2 * f.size)).1

end Frontmark.Markup
