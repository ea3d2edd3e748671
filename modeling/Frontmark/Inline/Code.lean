/-! Code spans: text between two runs of as many backticks.

The end of a span is looked for in the text after its first run. What the searches of one text have seen
is kept, since a search that has reached the end of the text tells about later ones too. -/

set_option autoImplicit false

namespace Frontmark.Inline

/-- Runs that are longer neither start a span nor end one. -/
def mostTicks : Nat := 80

/-- What the searches of a text have seen: where the run of a length stands that was passed last, and
whether one of them has reached the end. -/
structure TickSearch where
  seen : List (Nat × Nat) := []
  exhausted : Bool := false
  deriving DecidableEq, Repr

namespace TickSearch

def note (s : TickSearch) (ticks position : Nat) : TickSearch :=
  if ticks ≤ mostTicks then { s with seen := (ticks, position) :: s.seen.filter (·.1 ≠ ticks) } else s

/-- A run of the length is known to stand after `position`, or may do so. -/
def mayFollow (s : TickSearch) (ticks position : Nat) : Bool :=
  !s.exhausted || (s.seen.lookup ticks).any (position < ·)

/-- The text up to a run of exactly `ticks` backticks, and the text after that. A search needs one step
per run or character. -/
def scan (ticks : Nat) :
    (limit position : Nat) → (found text : List Char) → TickSearch → Option (List Char × List Char) × TickSearch
  | 0, _, _, _, s => (none, { s with exhausted := true })
  | _, _, _, [], s => (none, { s with exhausted := true })
  | limit + 1, position, found, c :: text, s =>
    if c = '\x60' then
      let run := (text.takeWhile (· = '\x60')).length + 1
      let rest := text.drop (run - 1)
      let s := s.note run position
      if run = ticks then (some (found.reverse, rest), s)
      else scan ticks limit (position + run) (List.replicate run '\x60' ++ found) rest s
    else scan ticks limit (position + 1) (c :: found) text s

/-- Look for the end of a span whose first run, of `ticks` backticks, ends at `position`. -/
def closing? (s : TickSearch) (ticks position : Nat) (text : List Char) :
    Option (List Char × List Char) × TickSearch :=
  if mostTicks < ticks || !s.mayFollow ticks position then (none, s)
  else scan ticks (text.length + 1) position [] text s

end TickSearch

/-- Line breaks count as spaces. One space is dropped from either end, unless there is nothing else. -/
def codeLiteral (raw : List Char) : List Char :=
  let text := raw.map fun c => if c = '\n' then ' ' else c
  if (text.any (· ≠ ' ')) && text.head? = some ' ' && text.getLast? = some ' ' then text.tail.dropLast else text

end Frontmark.Inline
