import Frontmark.Markup.Value

/-! Ordered trees, and the traversal that defines what a walk of one has to visit. -/

set_option autoImplicit false

namespace Frontmark.Markup

inductive RoseTree (α : Type) where
  | node (value : α) (children : List (RoseTree α))
  deriving Repr

namespace RoseTree

variable {α β : Type}

def value : RoseTree α → α
  | node v _ => v

def children : RoseTree α → List (RoseTree α)
  | node _ cs => cs

mutual

def size : RoseTree α → Nat
  | node _ cs => 1 + sizeAll cs

def sizeAll : List (RoseTree α) → Nat
  | [] => 0
  | t :: ts => t.size + sizeAll ts

end

mutual

def map (f : α → β) : RoseTree α → RoseTree β
  | node v cs => node (f v) (mapAll f cs)

def mapAll (f : α → β) : List (RoseTree α) → List (RoseTree β)
  | [] => []
  | t :: ts => t.map f :: mapAll f ts

end

section DecidableEq

variable [DecidableEq α]

mutual

def decEq : (s t : RoseTree α) → Decidable (s = t)
  | node a cs, node b ds =>
    match decEqAll cs ds with
    | isTrue same => decidable_of_iff (a = b) (by simp [same])
    | isFalse other => isFalse (by simp [other])

def decEqAll : (ss ts : List (RoseTree α)) → Decidable (ss = ts)
  | [], [] => isTrue rfl
  | [], _ :: _ => isFalse nofun
  | _ :: _, [] => isFalse nofun
  | s :: ss, t :: ts =>
    match decEq s t with
    | isFalse other => isFalse (by simp [other])
    | isTrue same =>
      match decEqAll ss ts with
      | isTrue rest => isTrue (by rw [same, rest])
      | isFalse other => isFalse (by simp [other])

end

instance : DecidableEq (RoseTree α) :=
  decEq

end DecidableEq

end RoseTree

/-- A node's value together with the identity that it keeps when it is moved. -/
structure Node where
  id : Nat
  value : Value
  deriving DecidableEq, Repr

namespace RoseTree

def id (t : RoseTree Node) : Nat :=
  t.value.id

def kind (t : RoseTree Node) : Kind :=
  t.value.value.kind

def opens (t : RoseTree Node) : Bool :=
  t.kind.opens (!t.children.isEmpty)

/-- The tree without its identities. -/
def plain (t : RoseTree Node) : RoseTree Value :=
  t.map Node.value

mutual

/-- Give the nodes the identities from `first` on, in the order in which they are entered;
the second component is the next free one. -/
def number (first : Nat) : RoseTree Value → RoseTree Node × Nat
  | node v cs =>
    let (children, next) := numberAll (first + 1) cs
    (node ⟨first, v⟩ children, next)

def numberAll (first : Nat) : List (RoseTree Value) → List (RoseTree Node) × Nat
  | [] => ([], first)
  | t :: ts =>
    let (tree, next) := t.number first
    let (trees, last) := numberAll next ts
    (tree :: trees, last)

end

end RoseTree

/-- One visit of a node, with the subtree that it stands over at that moment. -/
structure Visit where
  tree : RoseTree Node
  entering : Bool

namespace Visit

def id (v : Visit) : Nat :=
  v.tree.id

def value (v : Visit) : Value :=
  v.tree.value.value

def kind (v : Visit) : Kind :=
  v.tree.kind

/-- Whether the nodes visited next lie below this one. -/
def opens (v : Visit) : Bool :=
  v.entering && v.tree.opens

def describe (v : Visit) : String :=
  "TraversalEvent \x7b kind: " ++ v.kind.label ++ ", entering: " ++ (if v.entering then "true" else "false") ++ " \x7d"

end Visit

mutual

/-- The visits of a whole tree: a node, then, if it opens, its children in order and the node again. -/
def RoseTree.visits : RoseTree Node → List Visit
  | t@(.node n cs) =>
    if n.value.kind.opens (!cs.isEmpty) then ⟨t, true⟩ :: (RoseTree.visitsAll cs ++ [⟨t, false⟩]) else [⟨t, true⟩]

def RoseTree.visitsAll : List (RoseTree Node) → List Visit
  | [] => []
  | t :: ts => t.visits ++ RoseTree.visitsAll ts

end

end Frontmark.Markup
