import Frontmark.Decimal.Double
import Frontmark.Toml.Error

/-! TOML values. -/

set_option autoImplicit false

namespace Frontmark.Toml

open Frontmark.Decimal (Double)

inductive Value where
  | string (s : String)
  | integer (n : Int)
  | float (x : Double)
  | boolean (b : Bool)
  /-- A date, a time, or both, in its canonical form. -/
  | datetime (text : String)
  | array (items : List Value)
  | table (fields : List (String × Value))
  /-- A value with its place: the text from it on, and how many bytes it takes. -/
  | placed (rest : List Char) (bytes : Nat) (v : Value)
  deriving Repr

/-- The kind of a value that stands to the right of an equals sign. -/
def Value.kind : Value → Kind
  | placed _ _ v => v.kind
  | string _ => .string
  | integer _ => .integer
  | float _ => .float
  | boolean _ => .boolean
  | datetime _ => .datetime
  | array _ => .array
  | table _ => .inlineTable

end Frontmark.Toml
