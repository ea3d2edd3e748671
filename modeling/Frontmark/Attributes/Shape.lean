import Frontmark.Attributes.Header

/-! The attributes of a header as JSON, in one of several shapes. -/

set_option autoImplicit false

namespace Frontmark.Attributes

open Frontmark.Yaml (Value)

inductive Shape where
  /-- Any value. -/
  | value
  /-- A mapping, sorted by its keys. -/
  | map
  | post
  | summary
  deriving DecidableEq, Repr

inductive Failure where
  | header (cause : HeaderError)
  | unwritable (cause : Unwritable)

def Failure.message : Failure → String
  | header cause => cause.message
  | unwritable cause => cause.message

/-- Read attributes and write them with `toJson`. -/
def through {α : Type} (read : Value → Reading α) (default : α) (toJson : α → Except Unwritable Json)
    (header : Option String) : Except Failure Json :=
  match Header.attributes read default header with
  | .error cause => .error (.header cause)
  | .ok x =>
    match toJson x with
    | .error cause => .error (.unwritable cause)
    | .ok j => .ok j

def Shape.json : Shape → (header : Option String) → Except Failure Json
  | value => through .ok .null toJson
  | map => through Attributes.map [] mapToJson
  | post => through Post.read ⟨"", false⟩ (.ok ·.toJson)
  | summary => through Summary.read {} (.ok ·.toJson)

end Frontmark.Attributes
