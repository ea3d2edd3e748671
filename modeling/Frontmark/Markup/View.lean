import Frontmark.Markup.Walker
import Frontmark.Text.Quoted

/-! Views of a tree as lines, indented by depth: the visits of its walk, or its nodes with their texts. -/

set_option autoImplicit false

namespace Frontmark.Markup

inductive View where
  | events
  | tree
  deriving DecidableEq, Repr

namespace View

def all : List View :=
  [events, tree]

def name : View → String
  | events => "events"
  | tree => "tree"

def ofName? (name : String) : Option View :=
  all.find? (·.name = name)

def unknown (name : String) : String :=
  "Unknown view '" ++ name ++ "'. Available: " ++ String.intercalate ", " (all.map View.name)

/-- The line of a visit, if the view shows that visit. -/
def line? (view : View) (visit : Visit) : Option String :=
  match view with
  | events => some ((if visit.entering then "enter " else "leave ") ++ visit.kind.name)
  | tree =>
    if visit.entering then
      some (visit.kind.name ++ match visit.value.literal? with
        | none => ""
        | some literal => " " ++ Text.Quoted.quote literal)
    else none

def indent (depth : Nat) : String :=
  String.ofList (List.replicate (2 * depth) ' ')

/-- The lines so far and the depth of the next visit. -/
structure Page where
  text : String
  depth : Nat

def Page.add (view : View) (page : Page) (visit : Visit) : Page :=
  let depth := if visit.entering then page.depth else page.depth - 1
  ⟨match view.line? visit with
    | none => page.text
    | some line => page.text ++ indent depth ++ line ++ "\n",
   if visit.opens then depth + 1 else depth⟩

def page (view : View) (f : Forest) (root : Nat) : String :=
  ((f.visits root).foldl (Page.add view) ⟨"", 0⟩).text

end View

end Frontmark.Markup
