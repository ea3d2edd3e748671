import Frontmark.Decimal.Double
import Frontmark.Text.LowerCase
import Frontmark.Toml.Value

/-! The values that settings have, and how they are put into tables. -/

set_option autoImplicit false

namespace Frontmark.Settings

open Frontmark.Decimal (Double)

/-- What can be refused with a hint to the file that it is from keeps the name of the file. -/
inductive Value where
  | null
  | boolean (b : Bool)
  | integer (n : Int)
  | float (x : Double)
  | string (file : Option String) (s : String)
  | array (file : Option String) (items : List Value)
  | table (file : Option String) (fields : List (String × Value))
  deriving Inhabited, Repr

namespace Value

def file : Value → Option String
  | string file _ | array file _ | table file _ => file
  | _ => none

mutual

/-- A value from a file. -/
def ofToml (file : String) : Toml.Value → Value
  | .string s | .datetime s => string file s
  | .integer n => integer n
  | .float x => float x
  | .boolean b => boolean b
  | .array items => array file (itemsOfToml file items)
  | .table fields => table file (fieldsOfToml file fields)
  | .placed _ _ v => ofToml file v

def itemsOfToml (file : String) : List Toml.Value → List Value
  | [] => []
  | v :: items => ofToml file v :: itemsOfToml file items

def fieldsOfToml (file : String) : List (String × Toml.Value) → List (String × Value)
  | [] => []
  | (name, v) :: fields => (name, ofToml file v) :: fieldsOfToml file fields

end

/-- Change the value of a field, which is added at the end if there is none of this name. -/
def alter (name : String) (change : Option Value → Value) : List (String × Value) → List (String × Value)
  | [] => [(name, change none)]
  | (k, v) :: fields => if k = name then (k, change (some v)) :: fields else (k, v) :: alter name change fields

/-- Change a field of a table. Anything else becomes a table first. -/
def alterField (name : String) (change : Option Value → Value) : Value → Value
  | table file fields => table file (alter name change fields)
  | _ => table none (alter name change [])

/-- Change an item of an array. Anything else becomes an array first. Items are added so that there is one
with this index; indices below zero count from the end. -/
def alterItem (index : Int) (change : Value → Value) (v : Value) : Value :=
  let (file, items) : Option String × List Value :=
    match v with
    | array file items => (file, items)
    | _ => (none, [])
  if 0 ≤ index then
    let i := index.toNat
    array file ((items ++ List.replicate (i + 1 - items.length) null).modify i change)
  else
    let i := items.length - index.natAbs
    array file ((List.replicate (index.natAbs - items.length) null ++ items).modify i change)

mutual

/-- Give a field a value. The fields of a table are given to the table that is there already. -/
def setField (name : String) : Value → Value → Value
  | table _ fields, target =>
    alterField (Text.lowerCase name) (fun old => setFields fields (old.getD (table none []))) target
  | v, target => alterField (Text.lowerCase name) (fun _ => v) target

def setFields : List (String × Value) → Value → Value
  | [], target => target
  | (name, v) :: fields, target => setFields fields (setField name v target)

end

end Value

end Frontmark.Settings
