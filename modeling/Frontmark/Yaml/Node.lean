import Frontmark.Yaml.Cursor

/-! The nodes of a YAML document, before anything is made of their texts and tags. -/

set_option autoImplicit false

namespace Frontmark.Yaml

structure Properties where
  mark : Mark
  /-- The number of the anchor, by which an alias refers to the node. -/
  anchor? : Option Nat := none
  /-- The octets of the tag in full. -/
  tag? : Option (List UInt8) := none
  deriving DecidableEq, Repr

inductive Node where
  | scalar (properties : Properties) (plain : Bool) (text : String)
  | reference (mark : Mark) (anchor : Nat)
  | sequence (properties : Properties) (items : List Node)
  | mapping (properties : Properties) (entries : List (Node × Node))
  /-- The document cannot be read any further. -/
  | stop

namespace Node

def properties? : Node → Option Properties
  | scalar p .. | sequence p _ | mapping p _ => some p
  | reference .. | stop => none

def anchor? (n : Node) : Option Nat :=
  n.properties?.bind Properties.anchor?

/-- The node itself, if an alias can refer to it. -/
def target (n : Node) : List (Nat × Node) :=
  n.anchor?.toList.map fun anchor => (anchor, n)

mutual

/-- The nodes with anchors in the order of the text. -/
def targets : Node → List (Nat × Node)
  | scalar p plain text => (scalar p plain text).target
  | reference .. | stop => []
  | sequence p items => (sequence p items).target ++ targetsOfItems items
  | mapping p entries => (mapping p entries).target ++ targetsOfEntries entries

def targetsOfItems : List Node → List (Nat × Node)
  | [] => []
  | n :: items => n.targets ++ targetsOfItems items

def targetsOfEntries : List (Node × Node) → List (Nat × Node)
  | [] => []
  | (key, value) :: entries => key.targets ++ value.targets ++ targetsOfEntries entries

end

end Node

end Frontmark.Yaml
