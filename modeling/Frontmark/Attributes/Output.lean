import Frontmark.Attributes.Record
import Frontmark.Json

/-! Attributes as JSON. -/

set_option autoImplicit false

namespace Frontmark.Attributes

open Frontmark.Yaml (Value bareName)

/-- Why a value cannot be written as JSON. -/
inductive Unwritable where
  | keyNotString
  | keyNotFinite
  deriving DecidableEq, Repr

def Unwritable.message : Unwritable → String
  | keyNotString => "key must be a string"
  | keyNotFinite => "float key must be finite (got NaN or +/-inf)"

/-- The name of a field. Truth values and finite numbers are names too. -/
def fieldName : Value → Except Unwritable String
  | .text s => .ok s
  | .bool b => .ok (toString b)
  | .integer n => .ok (toString n)
  | .real x =>
    match x with
    | .finite .. => .ok (Decimal.Form.data.write x)
    | .infinite _ | .notANumber => .error .keyNotFinite
  | .null | .sequence _ | .mapping _ | .tagged .. => .error .keyNotString

mutual

/-- A tagged value is an object with one field. -/
def toJson : Value → Except Unwritable Json
  | .null => .ok .null
  | .bool b => .ok (.bool b)
  | .integer n => .ok (.integer n)
  | .real x => .ok (.real x)
  | .text s => .ok (.text s)
  | .sequence vs => do return .array (← itemsToJson vs)
  | .mapping entries => do return .object (← entriesToJson entries)
  | .tagged name v => do return .object [("!" ++ bareName name, ← toJson v)]

def itemsToJson : List Value → Except Unwritable (List Json)
  | [] => .ok []
  | v :: vs => do
    let j ← toJson v
    return j :: (← itemsToJson vs)

def entriesToJson : List (Value × Value) → Except Unwritable (List (String × Json))
  | [] => .ok []
  | (key, v) :: entries => do
    let name ← fieldName key
    let j ← toJson v
    return (name, j) :: (← entriesToJson entries)

end

def mapToJson (entries : List (String × Value)) : Except Unwritable Json := do
  return .object (← entries.mapM fun (name, v) => do return (name, ← toJson v))

def Post.toJson (p : Post) : Json :=
  .object [("title", .text p.title), ("draft", .bool p.draft)]

def Summary.toJson (s : Summary) : Json :=
  .object [("title", s.title?.elim .null .text), ("tags", .array (s.tags.map .text))]

end Frontmark.Attributes
