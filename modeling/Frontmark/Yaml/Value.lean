import Frontmark.Decimal.Double

/-! The values that YAML texts stand for. -/

set_option autoImplicit false

namespace Frontmark.Yaml

open Frontmark.Decimal (Double)

inductive Value where
  | null
  | bool (b : Bool)
  | integer (n : Int)
  | real (x : Double)
  | text (s : String)
  | sequence (items : List Value)
  /-- The entries are in the order of the text. -/
  | mapping (entries : List (Value × Value))
  | tagged (name : String) (content : Value)
  deriving Repr

/-- The name of a tag without the exclamation mark in front of it, unless it is nothing else. -/
def bareName (name : String) : String :=
  match name.toList with
  | '!' :: c :: rest => String.ofList (c :: rest)
  | _ => name

namespace Value

mutual

/-- Whether two values are one key. The order of entries does not matter. -/
def same : Value → Value → Bool
  | null, null => true
  | bool a, bool b => a = b
  | integer a, integer b => a = b
  | real a, real b => a.same b
  | text a, text b => a = b
  | sequence xs, sequence ys => sameItems xs ys
  | mapping xs, mapping ys => xs.length = ys.length && sameEntries xs ys
  | tagged a x, tagged b y => bareName a = bareName b && same x y
  | _, _ => false

def sameItems : List Value → List Value → Bool
  | [], [] => true
  | x :: xs, y :: ys => same x y && sameItems xs ys
  | _, _ => false

def sameEntries : List (Value × Value) → List (Value × Value) → Bool
  | [], _ => true
  | (key, value) :: xs, ys => ys.any (fun y => same key y.1 && same value y.2) && sameEntries xs ys

end

/-- The value without the tags around it. -/
def untagged : Value → Value
  | tagged _ v => v.untagged
  | v => v

def isNull : Value → Bool
  | null => true
  | _ => false

end Value

end Frontmark.Yaml
