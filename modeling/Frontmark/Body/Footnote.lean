import Frontmark.Link.Label
import Frontmark.Markup.RoseTree

/-! Footnotes: definitions are moved to the end of the document, in the order of their first references.

Definitions without a reference are dropped, and references without a definition are text. A definition
inside another one is part of it. -/

set_option autoImplicit false

namespace Frontmark.Body

open Frontmark.Markup (RoseTree Value Extension)

def footnoteKey (name : String) : String :=
  Link.normalize name.toList

mutual

/-- The definitions of a tree with their keys, in the order in which they stand. -/
def definitions : RoseTree Value → List (String × RoseTree Value)
  | t@(.node v cs) =>
    match v with
    | .extension (.footnoteDefinition name) => [(footnoteKey name, t)]
    | _ => definitionsAmong cs

def definitionsAmong : List (RoseTree Value) → List (String × RoseTree Value)
  | [] => []
  | t :: ts => definitions t ++ definitionsAmong ts

end

mutual

/-- The keys of all references of a tree, in the order in which they stand. -/
def references : RoseTree Value → List String
  | .node v cs =>
    match v with
    | .extension (.footnoteReference name) => [footnoteKey name]
    | _ => referencesAmong cs

def referencesAmong : List (RoseTree Value) → List String
  | [] => []
  | t :: ts => references t ++ referencesAmong ts

end

mutual

/-- The tree with references as text wherever their key is not among those defined. -/
def plainReferences (defined : List String) : RoseTree Value → RoseTree Value
  | .node v cs =>
    match v with
    | .extension (.footnoteReference name) =>
      if defined.contains (footnoteKey name) then .node v cs else .node (.text ("[^" ++ name ++ "]")) cs
    | _ => .node v (plainReferencesAmong defined cs)

def plainReferencesAmong (defined : List String) : List (RoseTree Value) → List (RoseTree Value)
  | [] => []
  | t :: ts => plainReferences defined t :: plainReferencesAmong defined ts

end

def isDefinition : RoseTree Value → Bool
  | .node (.extension (.footnoteDefinition _)) _ => true
  | _ => false

mutual

def withoutDefinitions : RoseTree Value → RoseTree Value
  | .node v cs => .node v (withoutDefinitionsAmong cs)

def withoutDefinitionsAmong : List (RoseTree Value) → List (RoseTree Value)
  | [] => []
  | t :: ts => if isDefinition t then withoutDefinitionsAmong ts else withoutDefinitions t :: withoutDefinitionsAmong ts

end

/-- The list with only the first of equal elements. -/
def firsts (keys : List String) : List String :=
  (keys.foldl (fun seen key => if seen.contains key then seen else key :: seen) []).reverse

/-- Of several definitions with one key the last one counts. -/
def moveFootnotes (root : RoseTree Value) : RoseTree Value :=
  let defined := (definitions root).map Prod.fst
  let root := plainReferences defined root
  let known := (definitions root).reverse
  let moved := (firsts (references root)).filterMap (List.lookup · known)
  match withoutDefinitions root with
  | .node v cs => .node v (cs ++ moved)

end Frontmark.Body
