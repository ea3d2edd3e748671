import Frontmark.Settings.Value
import Frontmark.Text.Ascii

/-! Keys of settings: names and indices on the way from the outermost table to a value. -/

set_option autoImplicit false

namespace Frontmark.Settings

open Frontmark.Text

inductive Step where
  | field (name : String)
  | item (index : Int)
  deriving DecidableEq, Repr

structure Key where
  first : String
  steps : List Step := []
  deriving DecidableEq, Repr

/-- What was looked for in a key and not found. -/
inductive KeyError where
  | name
  | sign
  | digit
  | index
  deriving DecidableEq, Repr

def KeyError.message : KeyError → String
  | name => "IsA"
  | sign => "Char"
  | digit => "Digit"
  | index => "Map on Result"

namespace Key

def isNameChar (c : Char) : Bool :=
  isAlphanumeric c || c = ' ' || c = '_' || c = '-'

def name? (cs : List Char) : Option (String × List Char) :=
  let name := cs.takeWhile isNameChar
  if name.isEmpty then none else some (String.ofList name, cs.dropWhile isNameChar)

def indexBound : Nat := 1 <<< 63

/-- Read an index and the bracket that closes it. -/
def index (cs : List Char) : Except KeyError (Int × List Char) :=
  let cs := cs.dropWhile isSpaceOrTab
  let (negative, cs) : Bool × List Char :=
    match cs with
    | '-' :: cs => (true, cs)
    | _ => (false, cs)
  let digits := cs.takeWhile isDigit
  let n := numeral 10 digits
  let rest := (cs.dropWhile isDigit).dropWhile isSpaceOrTab
  if digits.isEmpty then .error .digit
  else if indexBound < n || (n = indexBound && !negative) then .error .index
  else
    match rest with
    | ']' :: rest => .ok (if negative then -n else n, rest)
    | _ => .error .sign

def step : List Char → Except KeyError (Step × List Char)
  | '.' :: cs =>
    match name? cs with
    | some (name, rest) => .ok (.field name, rest)
    | none => .error .sign
  | '[' :: cs => do
    let (i, rest) ← index cs
    return (.item i, rest)
  | _ => .error .sign

def moreSteps : (fuel : Nat) → List Char → Except KeyError (List Step)
  | _, [] => .ok []
  | 0, _ => .ok []
  | fuel + 1, cs => do
    let (s, rest) ← step cs
    return s :: (← moreSteps fuel rest)

def read (key : String) : Except KeyError Key :=
  match name? key.toList with
  | none => .error .name
  | some (first, rest) => do return ⟨first, ← moreSteps rest.length rest⟩

end Key

namespace Value

/-- Set the value at the end of the steps from a field. -/
def setFrom (name : String) (v : Value) : List Step → Value → Value
  | [], target => setField name v target
  | .field inner :: steps, target =>
    alterField (lowerCase name) (fun old => setFrom inner v steps (old.getD null)) target
  | .item i :: steps, target =>
    alterField (lowerCase name) (fun old => setItem i steps (old.getD null)) target
where
  setItem (i : Int) : List Step → Value → Value
    | [], target => alterItem i (fun _ => v) target
    | .field inner :: steps, target => alterItem i (setFrom inner v steps) target
    | .item j :: steps, target => alterItem i (setItem j steps) target

def set (root : Value) (key : Key) (v : Value) : Value :=
  setFrom key.first v key.steps root

end Value

end Frontmark.Settings
