import Frontmark.Yaml.Error

/-! The white space inside a scalar that spans lines.

Blanks within a line count. A single line break counts as a space, and of several the first one does not
count; blanks around breaks do not count either. -/

set_option autoImplicit false

namespace Frontmark.Yaml

open Frontmark.Text

def fail {α : Type} (construct : Construct) (start : Mark) (problem : Problem) (at' : Cursor) : Except Malformed α :=
  .error { problem, mark := at'.mark, within? := some (construct, start) }

structure Gap where
  blanks : List Char := []
  /-- Whether a line has ended. -/
  broken : Bool := false
  first : List Char := []
  later : List Char := []

namespace Gap

/-- What the gap adds to the text. -/
def text (g : Gap) : List Char :=
  if !g.broken then g.blanks
  else if g.first = ['\n'] then if g.later.isEmpty then [' '] else g.later
  else g.first ++ g.later

def blank (g : Gap) (c : Char) : Gap :=
  if g.broken then g else { g with blanks := g.blanks ++ [c] }

def lineBreak (g : Gap) (c : List Char) : Gap :=
  if g.broken then { g with later := g.later ++ c } else { blanks := [], broken := true, first := c, later := [] }

/-- Read the gap of a scalar that began at `start` and whose lines have at least `indent` columns before them,
in which there is no tab. -/
def read (start : Mark) (indent : Nat) : Nat → Gap → Cursor → Except Malformed (Gap × Cursor)
  | 0, g, c => .ok (g, c)
  | fuel + 1, g, c =>
    match c.rest with
    | [] => .ok (g, c)
    | x :: _ =>
      if isSpaceOrTab x then
        if x = '\t' && g.broken && c.column < indent then fail .plainScalar start .tabBeforeText c
        else read start indent fuel (g.blank x) c.skip
      else if isBreak x then
        let (b, next) := c.takeBreak
        read start indent fuel (g.lineBreak b) next
      else .ok (g, c)

end Gap

end Frontmark.Yaml
