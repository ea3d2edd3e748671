import Frontmark.Decimal.Form

/-! JSON texts. -/

set_option autoImplicit false

namespace Frontmark

open Frontmark.Decimal (Double)

inductive Json where
  | null
  | bool (b : Bool)
  | integer (n : Int)
  /-- A number that is infinite or none at all is written as null. -/
  | real (x : Double)
  | text (s : String)
  | array (items : List Json)
  /-- Names can repeat, and their order is kept. -/
  | object (fields : List (String × Json))
  deriving Repr

namespace Json

def hexDigit (n : Nat) : Char :=
  (Nat.digitChar n)

/-- Quotes, backslashes and controls are escaped, and nothing else is. -/
def escape (c : Char) : List Char :=
  if c = '"' then ['\\', '"']
  else if c = '\\' then ['\\', '\\']
  else if c = '\n' then ['\\', 'n']
  else if c = '\r' then ['\\', 'r']
  else if c = '\t' then ['\\', 't']
  else if c = '\x08' then ['\\', 'b']
  else if c = '\x0c' then ['\\', 'f']
  else if c.toNat < 32 then ['\\', 'u', '0', '0', hexDigit (c.toNat / 16), hexDigit (c.toNat % 16)]
  else [c]

def quote (s : String) : String :=
  String.ofList ('"' :: s.toList.flatMap escape ++ ['"'])

/-- A line break and two spaces for each level. -/
def newLine (level : Nat) : String :=
  "\n" ++ String.ofList (List.replicate (2 * level) ' ')

/-- The parts of a collection, each on lines of its own. -/
def spread (opening closing : String) (level : Nat) (parts : List String) : String :=
  if parts.isEmpty then opening ++ closing
  else opening ++ newLine (level + 1) ++ String.intercalate ("," ++ newLine (level + 1)) parts ++ newLine level ++ closing

mutual

/-- The text of a value that stands on a line at the given level. -/
def pretty (level : Nat) : Json → String
  | null => "null"
  | bool b => toString b
  | integer n => toString n
  | real x =>
    match x with
    | .finite .. => Decimal.Form.data.write x
    | .infinite _ | .notANumber => "null"
  | text s => quote s
  | array items => spread "[" "]" level (prettyItems level items)
  | object fields => spread "\x7b" "\x7d" level (prettyFields level fields)

def prettyItems (level : Nat) : List Json → List String
  | [] => []
  | j :: items => pretty (level + 1) j :: prettyItems level items

def prettyFields (level : Nat) : List (String × Json) → List String
  | [] => []
  | (name, j) :: fields => (quote name ++ ": " ++ pretty (level + 1) j) :: prettyFields level fields

end

end Json

end Frontmark
