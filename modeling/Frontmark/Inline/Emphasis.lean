import Frontmark.Inline.Run

/-! Pairing the delimiter runs of a line.

Closers are taken from left to right. Each looks back for the nearest run that can open what it closes.
Runs that lie between a pair are text. -/

set_option autoImplicit false

namespace Frontmark.Inline

open Frontmark.Markup (RoseTree Value Extension)

/-- Closers that need not search where another one of the same class has searched in vain. -/
structure Class where
  mark : Char
  canOpen : Bool
  remainder : Nat
  deriving DecidableEq, Repr

def Run.class (r : Run) : Class :=
  if r.mark = '*' then ⟨r.mark, r.canOpen, r.length % 3⟩ else ⟨r.mark, false, 0⟩

/-- For each class of closers, the position from which on an opener may still be found. -/
abbrev Floors := List (Class × Nat)

def Floors.floor (floors : Floors) (c : Class) : Nat :=
  (floors.lookup c).getD 0

/-- Two runs of which one could go either way do not match when their lengths add up to a multiple of
three, unless both lengths are such multiples. -/
def oddMatch (opener closer : Run) : Bool :=
  (closer.canOpen || opener.canClose) && (opener.length + closer.length) % 3 = 0 &&
    !(opener.length % 3 = 0 && closer.length % 3 = 0)

/-- The pieces between a closer and its opener, in order, the opener, and the pieces before it. -/
structure Opening where
  between : List Piece
  opener : Run
  before : List Piece

/-- What a search for an opener ends with. A search that has met an odd match says nothing about closers
of other lengths. -/
inductive Search where
  | found (opening : Opening)
  | absent (odd : Bool)

/-- Look back for the opener of `closer`; `pieces` are those before it, the nearest first. -/
def findOpener (closer : Run) (floor : Nat) : (odd : Bool) → (between pieces : List Piece) → Search
  | odd, _, [] => .absent odd
  | odd, between, .run r :: pieces =>
    if r.position < floor then .absent odd
    else if r.canOpen && r.mark = closer.mark then
      if oddMatch r closer then findOpener closer floor true (.run r :: between) pieces
      else .found ⟨between, r, pieces⟩
    else findOpener closer floor odd (.run r :: between) pieces
  | odd, between, piece :: pieces => findOpener closer floor odd (piece :: between) pieces

def isQuote (mark : Char) : Bool :=
  mark = '\'' || mark = '"'

def closingQuote (mark : Char) : List Char :=
  if mark = '\'' then ['\u2019'] else ['\u201d']

def openingQuote (mark : Char) : List Char :=
  if mark = '\'' then ['\u2018'] else ['\u201c']

/-- How many delimiters of each run a pair uses up. -/
def used (opener closer : Run) : Nat :=
  if 2 ≤ opener.shown.length && 2 ≤ closer.shown.length then 2 else 1

def construct (mark : Char) (used : Nat) : Value :=
  if mark = '~' then .extension .strikethrough
  else if mark = '^' then .extension .superscript
  else if used = 1 then .emph
  else .strong

/-- Tildes match only runs of their own length, and only as a whole. -/
def mismatched (opener closer : Run) : Bool :=
  let used := used opener closer
  opener.mark = '~' && (opener.shown.length ≠ closer.shown.length || used < opener.shown.length)

def Run.shorten (r : Run) (n : Nat) : List Piece :=
  let shown := r.shown.drop n
  if shown.isEmpty then [] else [.run { r with shown }]

/-- The pieces on both sides of the next piece to be considered, those before it in reverse order. -/
structure Pairing where
  before : List Piece
  after : List Piece
  floors : Floors := []

namespace Pairing

def search (p : Pairing) (closer : Run) : Search :=
  findOpener closer (p.floors.floor closer.class) false [] p.before

/-- Pass over a closer without an opener. -/
def pass (p : Pairing) (closer : Run) (odd : Bool) (after : List Piece) : Pairing :=
  let piece : Piece := if closer.canOpen then .run closer else .tree (textTree closer.shown)
  ⟨piece :: p.before, after, if odd then p.floors else (closer.class, closer.position) :: p.floors⟩

def closeQuote (p : Pairing) (closer : Run) (after : List Piece) : Pairing :=
  let shown := closingQuote closer.mark
  match p.search closer with
  | .found found =>
    let opener : Piece := .tree (textTree (openingQuote closer.mark))
    { p with before := .tree (textTree shown) :: found.between.reverse ++ opener :: found.before, after }
  | .absent odd => p.pass { closer with shown } odd after

/-- One step with a closer; `none` when it meets an opener that it must not match, which ends the pairing. -/
def close (p : Pairing) (closer : Run) (after : List Piece) : Option Pairing :=
  match p.search closer with
  | .found found =>
    if mismatched found.opener closer then none
    else
      let n := used found.opener closer
      let inner : RoseTree Value := .node (construct closer.mark n) (found.between.map Piece.settled)
      some { p with
        before := .tree inner :: found.opener.shorten n ++ found.before
        after := closer.shorten n ++ after }
  | .absent odd => some (p.pass closer odd after)

/-- Consider the next piece. -/
def step (p : Pairing) : Option Pairing :=
  match p.after with
  | [] => none
  | .run r :: after =>
    if !r.canClose then some { p with before := .run r :: p.before, after }
    else if isQuote r.mark then some (p.closeQuote r after)
    else p.close r after
  | piece :: after => some { p with before := piece :: p.before, after }

def run : (limit : Nat) → Pairing → Pairing
  | 0, p => p
  | limit + 1, p =>
    match p.step with
    | none => p
    | some p => run limit p

end Pairing

/-- An upper bound of the steps of a pairing: each one passes a piece or uses up delimiters. -/
def pairingSteps : List Piece → Nat
  | [] => 0
  | .run r :: pieces => r.shown.length + 1 + pairingSteps pieces
  | _ :: pieces => 1 + pairingSteps pieces

/-- The trees that the pieces make. -/
def pair (pieces : List Piece) : List (RoseTree Value) :=
  let p := Pairing.run (pairingSteps pieces) ⟨[], pieces, []⟩
  (p.before.reverse ++ p.after).map Piece.settled

end Frontmark.Inline
