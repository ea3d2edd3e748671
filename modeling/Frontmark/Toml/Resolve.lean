import Frontmark.Decimal.Form
import Frontmark.Text.Quoted
import Frontmark.Toml.MomentText

/-! Tables that stand for dates and times.

A table whose first key is a reserved one is the date or time that the key has, as a string, for its value. What
else is in the table does not count. -/

set_option autoImplicit false

namespace Frontmark.Toml

def momentKey : String := "$__toml_private_datetime"

namespace Value

/-- The value of a field with its place, if that can be asked for: `start` is the text from the value on, and
`rest` the text after it. -/
def placeFor (key : String) (start rest : List Char) (v : Value) : Value :=
  if key = momentKey then .placed start (Text.Utf8.size start - Text.Utf8.size rest) v else v

def description : Value → String
  | .string s => "string " ++ Text.Quoted.quote s
  | .integer n => "integer " ++ code (toString n)
  | .float x => "floating point " ++ code (Decimal.Form.plain.write x)
  | .boolean b => "boolean " ++ code (toString b)
  | .array _ => "sequence"
  | .datetime _ | .table _ => "map"
  | .placed _ _ v => v.description

/-- The date or time that the reserved key has for its value. -/
def moment (rest : List Char) (bytes : Nat) : Value → Except Failure Value
  | .string s =>
    match MomentText.read s with
    | .ok text => .ok (.datetime text)
    | .error fault => .error { rest, bytes, cause? := some (.badMoment fault.message) }
  | v => .error { rest, bytes, cause? := some (.noString v.description) }

mutual

/-- The value without places, and with dates and times for the tables that stand for them. -/
def resolve : Value → Except Failure Value
  | .array items => .array <$> resolveItems items
  | .table [] => .ok (.table [])
  | .table ((key, v) :: fields) =>
    match v with
    | .placed rest bytes v => moment rest bytes v
    | v => do
      let first ← v.resolve
      return .table ((key, first) :: (← resolveFields fields))
  | .placed _ _ v => v.resolve
  | v => .ok v

def resolveItems : List Value → Except Failure (List Value)
  | [] => .ok []
  | v :: items => do
    let first ← v.resolve
    return first :: (← resolveItems items)

def resolveFields : List (String × Value) → Except Failure (List (String × Value))
  | [] => .ok []
  | (key, v) :: fields => do
    let first ← v.resolve
    return (key, first) :: (← resolveFields fields)

end

end Value

end Frontmark.Toml
