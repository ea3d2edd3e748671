import Frontmark.Decimal.Form
import Frontmark.Folder
import Frontmark.Options
import Frontmark.Settings.Key
import Frontmark.Text.Quoted

/-! Options from settings. -/

set_option autoImplicit false

namespace Frontmark.Settings

/-- Why settings are refused. -/
inductive Error where
  | badKey (cause : KeyError)
  | noFile (name : String)
  | notText
  | badFile (name message : String)
  /-- The value that a key has is not a truth value, nor does it stand for one. -/
  | notBoolean (found : Value) (key : String)
  | notRecord (found : Value) (record : String)
  | tooShort (length : Nat) (record : String) (size : Nat)
  | missing (field : String)

def describe : Value → String
  | .null => "unit value"
  | .boolean b => "boolean \x60" ++ toString b ++ "\x60"
  | .integer n => "integer \x60" ++ toString n ++ "\x60"
  | .float x => "floating point \x60" ++ Decimal.Form.plain.write x ++ "\x60"
  | .string _ s => "string " ++ Text.Quoted.quote s
  | .array .. => "sequence"
  | .table .. => "map"

/-- Strings are shown in lower case, in which they are compared. -/
def lowered : Value → Value
  | .string file s => .string file (Text.lowerCase s)
  | v => v

def elements (n : Nat) : String :=
  toString n ++ if n = 1 then " element" else " elements"

def Error.message : Error → String
  | badKey cause => cause.message
  | noFile name => "configuration file \"" ++ name ++ "\" not found"
  | notText => FileError.notText.message
  | badFile name message => message ++ " in " ++ name
  | notBoolean found key =>
    "invalid type: " ++ describe (lowered found) ++ ", expected a boolean for key \x60" ++ key ++ "\x60" ++
      found.file.elim "" (" in " ++ ·)
  | notRecord found record => "invalid type: " ++ describe found ++ ", expected struct " ++ record
  | tooShort length record size =>
    "invalid length " ++ toString length ++ ", expected struct " ++ record ++ " with " ++ elements size
  | missing field => "missing field \x60" ++ field ++ "\x60"

/-- The error, as one of a field of a table. -/
def Error.inField (name : String) : Error → Error
  | notBoolean found key => notBoolean found (name ++ (if key.isEmpty || key.startsWith "[" then "" else ".") ++ key)
  | e => e

/-- The error, as one of an item of an array. -/
def Error.inItem (index : Nat) : Error → Error
  | notBoolean found key => notBoolean found ("[" ++ toString index ++ "]" ++ key)
  | e => e

abbrev Reading (α : Type) := Except Error α

def truth? : Value → Option Bool
  | .boolean b => some b
  | .integer n => some (n ≠ 0)
  | .float x => some !x.isZero
  | .string _ s =>
    let s := Text.lowerCase s
    if ["1", "true", "on", "yes"].contains s then some true
    else if ["0", "false", "off", "no"].contains s then some false
    else none
  | _ => none

def boolean (v : Value) : Reading Bool :=
  match truth? v with
  | some b => .ok b
  | none => .error (.notBoolean v "")

/-- The parts of a record: a table has them by their names, an array by their places. -/
inductive Parts where
  | named (fields : List (String × Value))
  | listed (items : List Value)

structure Record where
  name : String
  size : Nat
  parts : Parts

def Record.ofValue (name : String) (size : Nat) : Value → Reading Record
  | .table _ fields => .ok ⟨name, size, .named fields⟩
  | .array _ items => .ok ⟨name, size, .listed items⟩
  | v => .error (.notRecord v name)

/-- Read a field; `place` is its place among the fields. An array has to have all of them. -/
def Record.field? {α : Type} (r : Record) (place : Nat) (name : String) (read : Value → Reading α) :
    Reading (Option α) :=
  match r.parts with
  | .named fields =>
    match fields.lookup name with
    | none => .ok none
    | some v => (some <$> read v).mapError (.inField name)
  | .listed items =>
    match items[place]? with
    | none => .error (.tooShort place r.name r.size)
    | some v => (some <$> read v).mapError (.inItem place)

def required {α : Type} (name : String) : Option α → Reading α
  | none => .error (.missing name)
  | some x => .ok x

end Frontmark.Settings
