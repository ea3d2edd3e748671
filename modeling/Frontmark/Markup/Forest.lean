import Frontmark.Markup.RoseTree

/-! A document tree under editing.

Nodes keep their identity while they are moved about. A node that has been taken out of its place
stays in the forest with everything below it, as a tree of its own. -/

set_option autoImplicit false

namespace Frontmark.Markup

/-- On which side of a node a tree is put in: among its children, or beside it. -/
inductive Side where
  | first
  | last
  | before
  | after
  deriving DecidableEq, Repr

/-- A position at which a tree can be put in, named by a node. -/
structure Slot where
  side : Side
  anchor : Nat
  deriving DecidableEq, Repr

/-- The trees without a parent, in families of siblings, and the next free identity. A tree can be put into
itself. It is out of reach then, and `ties` says where its root belongs as soon as that is in another tree. -/
structure Forest where
  families : List (List (RoseTree Node))
  fresh : Nat
  ties : List (Nat × Slot) := []

/-- Where a node stands: the subtree below it, its parent and its next sibling. -/
structure Place where
  tree : RoseTree Node
  parent : Option Nat
  next : Option Nat

def Place.id (p : Place) : Nat :=
  p.tree.id

mutual

/-- The places of all nodes of a tree, with `others` after them. -/
def RoseTree.places (parent next : Option Nat) (others : List Place) : RoseTree Node → List Place
  | t@(.node n cs) => ⟨t, parent, next⟩ :: RoseTree.placesAmong (some n.id) others cs

def RoseTree.placesAmong (parent : Option Nat) (others : List Place) : List (RoseTree Node) → List Place
  | [] => others
  | t :: ts => t.places parent (ts.head?.map RoseTree.id) (RoseTree.placesAmong parent others ts)

end

def RoseTree.contains (t : RoseTree Node) (id : Nat) : Bool :=
  (t.places none none []).any (·.id = id)

mutual

def RoseTree.setValue (id : Nat) (value : Value) : RoseTree Node → RoseTree Node
  | .node n cs => .node (if n.id = id then ⟨id, value⟩ else n) (RoseTree.setValueAmong id value cs)

def RoseTree.setValueAmong (id : Nat) (value : Value) : List (RoseTree Node) → List (RoseTree Node)
  | [] => []
  | t :: ts => t.setValue id value :: RoseTree.setValueAmong id value ts

end

mutual

/-- The tree without the subtree of `id` below its root. -/
def RoseTree.prune (id : Nat) : RoseTree Node → RoseTree Node
  | .node n cs => .node n (RoseTree.pruneAmong id cs)

def RoseTree.pruneAmong (id : Nat) : List (RoseTree Node) → List (RoseTree Node)
  | [] => []
  | t :: ts => if t.id = id then ts else t.prune id :: RoseTree.pruneAmong id ts

end

def Slot.insertUnder (slot : Slot) (new : RoseTree Node) (id : Nat) (children : List (RoseTree Node)) : List (RoseTree Node) :=
  if slot.anchor = id then
    match slot.side with
    | .first => new :: children
    | .last => children ++ [new]
    | .before | .after => children
  else children

def Slot.insertBeside (slot : Slot) (new : RoseTree Node) (t : RoseTree Node) : List (RoseTree Node) :=
  if slot.anchor = t.id then
    match slot.side with
    | .before => [new, t]
    | .after => [t, new]
    | .first | .last => [t]
  else [t]

mutual

def RoseTree.insert (slot : Slot) (new : RoseTree Node) : RoseTree Node → RoseTree Node
  | .node n cs => .node n (slot.insertUnder new n.id (RoseTree.insertAmong slot new cs))

def RoseTree.insertAmong (slot : Slot) (new : RoseTree Node) : List (RoseTree Node) → List (RoseTree Node)
  | [] => []
  | t :: ts => slot.insertBeside new (RoseTree.insert slot new t) ++ RoseTree.insertAmong slot new ts

end

namespace Forest

def ofTree (t : RoseTree Value) : Forest :=
  let (tree, fresh) := t.number 0
  { families := [[tree]], fresh }

def size (f : Forest) : Nat :=
  f.families.foldr (fun trees n => RoseTree.sizeAll trees + n) 0

def places (f : Forest) : List Place :=
  f.families.foldr (fun trees others => RoseTree.placesAmong none others trees) []

def place? (f : Forest) (id : Nat) : Option Place :=
  f.places.find? (·.id = id)

/-- The places by their identities, which are below the next free one. -/
def index (f : Forest) : Array (Option Place) :=
  f.places.foldr (fun p index => index.setIfInBounds p.id (some p)) (Array.replicate f.fresh none)

def tree? (f : Forest) (id : Nat) : Option (RoseTree Node) :=
  (f.place? id).map Place.tree

def value? (f : Forest) (id : Nat) : Option Value :=
  (f.tree? id).map fun t => t.value.value

def setValue (f : Forest) (id : Nat) (value : Value) : Forest :=
  { f with families := f.families.map (RoseTree.setValueAmong id value) }

def prune (f : Forest) (id : Nat) : Forest :=
  { f with families := (f.families.map (RoseTree.pruneAmong id)).filter (!·.isEmpty) }

def insert (f : Forest) (slot : Slot) (new : RoseTree Node) : Forest :=
  { f with families := f.families.map (RoseTree.insertAmong slot new) }

/-- Put in a new node without children; it takes the next free identity. -/
def add (f : Forest) (value : Value) (slot : Slot) : Forest :=
  { f.insert slot (.node ⟨f.fresh, value⟩ []) with fresh := f.fresh + 1 }

/-- Whether a slot is in the tree of a node. -/
def holds (f : Forest) (id : Nat) (slot : Slot) : Bool :=
  (f.tree? id).any (·.contains slot.anchor)

/-- Put the tree of a node into a slot that is not in it. -/
def attach (f : Forest) (id : Nat) (slot : Slot) : Forest :=
  match f.tree? id with
  | none => f
  | some tree => (f.prune id).insert slot tree

/-- Put the roots where they belong that no longer belong into themselves. -/
def settle (f : Forest) : Forest :=
  let (tied, free) := f.ties.partition fun (id, slot) => f.holds id slot
  free.foldl (fun f (id, slot) => f.attach id slot) { f with ties := tied }

/-- Take a node out of its place, with everything below it. -/
def detach (f : Forest) (id : Nat) : Forest :=
  match f.tree? id with
  | none => f
  | some tree =>
    settle { f.prune id with
      families := (f.prune id).families ++ [[tree]]
      ties := f.ties.filter (·.1 ≠ id) }

/-- Move a node to a slot. -/
def move (f : Forest) (id : Nat) (slot : Slot) : Forest :=
  let f := f.detach id
  if f.holds id slot then { f with ties := (id, slot) :: f.ties }
  else if (f.place? slot.anchor).isSome then f.attach id slot
  else f

end Forest

end Frontmark.Markup
