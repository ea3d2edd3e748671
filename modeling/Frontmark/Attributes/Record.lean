import Frontmark.Decimal.Form
import Frontmark.Text.Quoted
import Frontmark.Yaml.Value

/-! Reading records from values.

Fields can stand in any order, and others beside them are passed over. Tags do not matter. -/

set_option autoImplicit false

namespace Frontmark.Attributes

open Frontmark.Yaml (Value)

inductive Expected where
  | string
  | boolean
  | sequence
  | map
  | record (name : String)
  | fieldName
  deriving DecidableEq, Repr

def Expected.text : Expected → String
  | string => "a string"
  | boolean => "a boolean"
  | sequence => "a sequence"
  | map => "a map"
  | record name => "struct " ++ name
  | fieldName => "field identifier"

/-- Why a value is not what was asked for. -/
inductive Mismatch where
  | wrongType (found : Value) (expected : Expected)
  | missing (field : String)
  | repeated (field : String)

def describe : Value → String
  | .null => "unit value"
  | .bool b => "boolean \x60" ++ toString b ++ "\x60"
  | .integer n => "integer \x60" ++ toString n ++ "\x60"
  | .real x => "floating point \x60" ++ Decimal.Form.plain.write x ++ "\x60"
  | .text s => "string " ++ Text.Quoted.quote s
  | .sequence _ => "sequence"
  | .mapping _ => "map"
  | .tagged .. => "enum"

def Mismatch.message : Mismatch → String
  | wrongType found expected => "invalid type: " ++ describe found ++ ", expected " ++ expected.text
  | missing field => "missing field \x60" ++ field ++ "\x60"
  | repeated field => "duplicate field \x60" ++ field ++ "\x60"

abbrev Reading (α : Type) := Except Mismatch α

def stringAs (expected : Expected) (v : Value) : Reading String :=
  match v.untagged with
  | .text s => .ok s
  | other => .error (.wrongType other expected)

def string (v : Value) : Reading String :=
  stringAs .string v

def boolean (v : Value) : Reading Bool :=
  match v.untagged with
  | .bool b => .ok b
  | other => .error (.wrongType other .boolean)

/-- Null stands for no value. -/
def optional {α : Type} (read : Value → Reading α) (v : Value) : Reading (Option α) :=
  if v.isNull then .ok none else some <$> read v

/-- Null stands for no items. -/
def items {α : Type} (read : Value → Reading α) (v : Value) : Reading (List α) :=
  match v.untagged with
  | .sequence vs => vs.mapM read
  | .null => .ok []
  | other => .error (.wrongType other .sequence)

/-- Add an entry where it belongs in the order of the keys; a key that is there already gets the new value. -/
def insert (key : String) (v : Value) : List (String × Value) → List (String × Value)
  | [] => [(key, v)]
  | (k, w) :: rest =>
    if key = k then (key, v) :: rest
    else if key < k then (key, v) :: (k, w) :: rest
    else (k, w) :: insert key v rest

/-- A mapping from strings to any values, in the order of the strings. -/
def map (v : Value) : Reading (List (String × Value)) :=
  match v.untagged with
  | .mapping entries =>
    entries.foldlM (fun sorted (key, value) => do return insert (← string key) value sorted) []
  | .null => .ok []
  | other => .error (.wrongType other .map)

/-- Read the fields of a record in the order of the text. A field is set once. -/
def fields {α : Type} (record : String) (set : α → String → Value → Reading α) (blank : α) (v : Value) : Reading α :=
  match v.untagged with
  | .mapping entries =>
    entries.foldlM (fun r (key, value) => do set r (← stringAs .fieldName key) value) blank
  | other => .error (.wrongType other (.record record))

/-- Set a field that must not be set yet. -/
def once {α : Type} (field : String) (current : Option α) (read : Value → Reading α) (v : Value) : Reading (Option α) :=
  if current.isSome then .error (.repeated field) else some <$> read v

/-- A post has a title. -/
structure Post where
  title : String
  draft : Bool := false
  deriving DecidableEq, Repr

structure Post.Fields where
  title? : Option String := none
  draft? : Option Bool := none

def Post.read (v : Value) : Reading Post := do
  let f ← fields "Post" (fun (f : Post.Fields) name value =>
    if name = "title" then do return { f with title? := ← once name f.title? string value }
    else if name = "draft" then do return { f with draft? := ← once name f.draft? boolean value }
    else return f) {} v
  match f.title? with
  | none => .error (.missing "title")
  | some title => return ⟨title, f.draft?.getD false⟩

/-- What is said about a page; all of it can be left out. -/
structure Summary where
  title? : Option String := none
  tags : List String := []
  deriving DecidableEq, Repr

structure Summary.Fields where
  title? : Option (Option String) := none
  tags? : Option (List String) := none

def Summary.read (v : Value) : Reading Summary := do
  let f ← fields "Meta" (fun (f : Summary.Fields) name value =>
    if name = "title" then do return { f with title? := ← once name f.title? (optional string) value }
    else if name = "tags" then do return { f with tags? := ← once name f.tags? (items string) value }
    else return f) {} v
  return ⟨f.title?.join, f.tags?.getD []⟩

end Frontmark.Attributes
