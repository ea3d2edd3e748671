import Frontmark.Attributes.Output
import Frontmark.Text.Blank
import Frontmark.Yaml.Reader

/-! The attributes that the header of a document holds. -/

set_option autoImplicit false

namespace Frontmark

open Frontmark.Yaml (Value)

/-- What can be wrong with a header. -/
inductive HeaderError where
  /-- It is not well-formed. -/
  | notYaml (cause : Yaml.Error)
  /-- It does not hold what was asked for. -/
  | mismatch (cause : Attributes.Mismatch)

def HeaderError.message : HeaderError → String
  | notYaml cause => "Invalid front matter: " ++ cause.message
  | mismatch cause => "Invalid front matter attributes: " ++ cause.message

namespace Header

def value (header : String) : Except HeaderError Value :=
  match Yaml.read header with
  | .ok v => .ok v
  | .error cause => .error (.notYaml cause)

/-- Whether a header is well-formed; nothing is wrong with an empty one. -/
def validate (header : Option String) : Except HeaderError Unit :=
  match header with
  | none => .ok ()
  | some header => if header.isEmpty then .ok () else (value header).map fun _ => ()

/-- Read attributes from a header. One that says nothing gives the default. -/
def attributes {α : Type} (read : Value → Attributes.Reading α) (default : α) (header : Option String) :
    Except HeaderError α :=
  match header with
  | none => .ok default
  | some header =>
    if header.toList.all Text.isBlank then .ok default
    else do
      let v ← value header
      if v.untagged.isNull then return default
      else
        match read v with
        | .ok x => return x
        | .error cause => throw (.mismatch cause)

end Header

end Frontmark
