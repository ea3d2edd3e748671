import Frontmark.Toml.Error

/-! Reading a text from left to right, with faults that say where they were found. -/

set_option autoImplicit false

namespace Frontmark.Toml

open Frontmark.Text

abbrev Scan := StateT (List Char) (Except Failure)

namespace Scan

variable {α : Type}

/-- Nothing that is looked for can be read here. -/
def fault : Scan α :=
  fun rest => .error { rest }

def amend (change : Failure → Failure) (p : Scan α) : Scan α :=
  fun rest => (p rest).mapError change

/-- A fault inside is final. -/
def firmly (p : Scan α) : Scan α :=
  p.amend fun f => { f with final := true }

/-- A fault inside is one of this construct, unless it is known more closely. -/
def named (construct : Construct) (p : Scan α) : Scan α :=
  p.amend fun f => { f with construct? := f.construct? <|> some construct }

def expecting (expected : List Expected) (p : Scan α) : Scan α :=
  p.amend fun f => { f with expected := f.expected ++ expected }

/-- Read nothing if there is a fault inside that is not final. -/
def optional (p : Scan α) : Scan (Option α) :=
  fun rest =>
    match p rest with
    | .ok (x, next) => .ok (some x, next)
    | .error f => if f.final then .error f else .ok (none, rest)

/-- Refuse what has been read from `start` on. -/
def refuse (start : List Char) (cause : Cause) : Scan α :=
  fun _ => .error { rest := start, cause? := some cause }

def head? : Scan (Option Char) := do
  return (← get).head?

def skip : Scan Unit :=
  modify List.tail

def takeWhile (p : Char → Bool) : Scan (List Char) := do
  let rest ← get
  set (rest.dropWhile p)
  return rest.takeWhile p

/-- Read one character of a class. -/
def one (p : Char → Bool) : Scan Char := do
  match ← get with
  | [] => fault
  | c :: rest => if p c then do set rest; return c else fault

/-- Whether the text begins with `start`. -/
def isAt (start : List Char) : Scan Bool := do
  return start.isPrefixOf (← get)

def exactly (start : List Char) : Scan Unit := do
  if ← isAt start then modify (List.drop start.length) else fault

end Scan

def isEnd (c : Char) : Bool :=
  c = '\n' || c = '\r'

/-- The characters of a comment: no controls but the tab. -/
def isCommentChar (c : Char) : Bool :=
  c = '\t' || !isControl c

def blanks : Scan Unit := do
  let _ ← Scan.takeWhile isSpaceOrTab

/-- A carriage return that no line feed follows is passed before the fault is seen. -/
def newLine : Scan Unit := do
  match ← get with
  | '\n' :: rest | '\r' :: '\n' :: rest => set rest
  | '\r' :: rest => do set rest; Scan.fault
  | _ => Scan.fault

def lineEnd : Scan Unit := do
  if (← get).isEmpty then return ()
  else if (← Scan.optional newLine).isNone then Scan.fault

def comment : Scan Unit := do
  Scan.skip
  let _ ← Scan.takeWhile isCommentChar

/-- Nothing but blanks and a comment may be left of the line. -/
def restOfLine : Scan Unit :=
  Scan.expecting [.newLine, .sign "#"] do
    blanks
    if (← Scan.head?) = some '#' then comment
    lineEnd

/-- Pass blanks, comments and empty lines. -/
def gaps : Nat → Scan Unit
  | 0 => return ()
  | fuel + 1 => do
    blanks
    match ← Scan.head? with
    | some '#' =>
      comment
      newLine
      gaps fuel
    | some c => if isEnd c then do newLine; gaps fuel else return ()
    | none => return ()

end Frontmark.Toml
