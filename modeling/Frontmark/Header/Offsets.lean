import Frontmark.Header
import Frontmark.Text.Slice

/-! The division of a text by the offsets of its bytes.

`Header.split` takes a text apart character by character. Here it stays in one piece: lines, fences and gaps are found
by their offsets, and parts are cut out by ranges. A range that leaves the text or cuts a character is a fault, and so is
a loop that is not over in time. -/

set_option autoImplicit false

namespace Frontmark.Header.Offsets

open Frontmark.Text

/-- Why the division of a text breaks off. -/
inductive Fault where
  | range (r : ByteRange)
  | sum (n : Nat)
  | turns
  deriving DecidableEq, Repr

def cut (text : String) (r : ByteRange) : Except Fault String :=
  match slice? text r with
  | none => .error (.range r)
  | some part => .ok part

/-- What a sum comes to. The size of a text is always less than the largest machine integer, so a sum that is at most
one more than it does not overflow. -/
def sum (text : String) (n : Nat) : Except Fault Nat :=
  if n ≤ text.utf8ByteSize + 1 then .ok n else .error (.sum n)

/-- Where the line ends that `start` is on. -/
def lineEnd (text : String) (start : Nat) : Except Fault Nat := do
  let rest ← cut text ⟨start, text.utf8ByteSize⟩
  match firstOffset? (· = '\n') rest.toList with
  | none => return text.utf8ByteSize
  | some offset => sum text (start + offset)

/-- Where the body begins behind a closing fence that ends at `fenceEnd`. It does not if something other than blanks
stands on the line of the fence. -/
def closingEnd (text : String) (fenceEnd : Nat) : Except Fault (Option Nat) := do
  let rest ← cut text ⟨fenceEnd, text.utf8ByteSize⟩
  -- offsets in `rest` count from the end of the fence
  let blankEnd := (firstOffset? (!isBlank ·) rest.toList).getD rest.utf8ByteSize
  if blankEnd = rest.utf8ByteSize then return some text.utf8ByteSize
  else
    let blanks ← cut rest ⟨0, blankEnd⟩
    match lastOffset? (· = '\n') blanks.toList with
    | none => return none
    | some offset => return some (← sum text (fenceEnd + offset + 1))

/-- Where the body begins if the line closes the block with one of the fences. -/
def bodyStart (text : String) (lineStart : Nat) (line : String) : (fences : List (List Char)) → Except Fault (Option Nat)
  | [] => return none
  | fence :: fences => do
    if fence.isPrefixOf line.toList then
      match ← closingEnd text (← sum text (lineStart + Utf8.size fence)) with
      | some start => return some start
      | none => bodyStart text lineStart line fences
    else bodyStart text lineStart line fences

/-- What one turn of the loop over the lines comes to. -/
inductive Turn where
  | found (raw : String) (bodyStart : Nat)
  | next (lineStart : Nat)
  | over
  deriving DecidableEq, Repr

def turn (text : String) (opener : List Char) (contentStart lineStart : Nat) : Except Fault Turn := do
  if lineStart ≤ text.utf8ByteSize then
    let stop ← lineEnd text lineStart
    let line ← cut text ⟨lineStart, stop⟩
    match ← bodyStart text lineStart line [opener, dots] with
    | some start => return .found (← cut text ⟨contentStart, lineStart⟩) start
    -- a line that ends with a break has another one after it, if only an empty one at the very end
    | none => if stop = text.utf8ByteSize then return .over else return .next (← sum text (stop + 1))
  else return .over

/-- Look for the line that closes the block, in so many turns at most. -/
def search (text : String) (opener : List Char) (contentStart : Nat) :
    (turns lineStart : Nat) → Except Fault (Option (String × Nat))
  | 0, _ => throw .turns
  | turns + 1, lineStart => do
    match ← turn text opener contentStart lineStart with
    | .found raw start => return some (raw, start)
    | .next lineStart => search text opener contentStart turns lineStart
    | .over => return none

/-- What stands between the fences, and where the body begins. -/
def locate (turns : Nat) (text : String) : Except Fault (Option (String × Nat)) := do
  let start := if text.toList.head? = some byteOrderMark then byteOrderMark.utf8Size else 0
  let firstEnd ← lineEnd text start
  let first ← cut text ⟨start, firstEnd⟩
  let opener := dropReturn first.toList
  if !fences.contains opener || firstEnd == text.utf8ByteSize then return none
  else
    let contentStart ← sum text (start + Utf8.size opener)
    search text opener contentStart turns (← sum text (firstEnd + 1))

/-- A text divided into header and body, where the loop over its lines may take so many turns. -/
def split (turns : Nat) (text : String) : Except Fault Split := do
  match ← locate turns text with
  | none => return ⟨none, text, 1⟩
  | some (raw, start) =>
    let body ← cut text ⟨start, text.utf8ByteSize⟩
    let head ← cut text ⟨0, start⟩
    return ⟨some (String.ofList (trim raw.toList)), body, ← sum text (1 + head.toList.count '\n')⟩

end Frontmark.Header.Offsets
