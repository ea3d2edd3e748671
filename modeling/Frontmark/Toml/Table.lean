import Frontmark.Toml.Value

/-! Tables while a text is read.

A table is defined once: by a header, by the keys with dots that lead into it, or in braces. Until a header
names it, a table can stand for the path of another one. -/

set_option autoImplicit false

namespace Frontmark.Toml

/-- What a table owes its being to. -/
inductive Standing where
  | header
  /-- The header of a table within. -/
  | implied
  /-- A key with dots. -/
  | dotted
  deriving DecidableEq, Repr

inductive Item where
  | value (v : Value)
  | table (standing : Standing) (fields : List (String × Item))
  /-- Tables of one name, the last of which can still grow. -/
  | tables (members : List (List (String × Item)))

abbrev Fields := List (String × Item)

mutual

def Item.toValue : Item → Value
  | .value v => v
  | .table _ fields => .table (Item.fieldValues fields)
  | .tables members => .array (Item.memberValues members)

def Item.fieldValues : List (String × Item) → List (String × Value)
  | [] => []
  | (key, item) :: rest => (key, item.toValue) :: Item.fieldValues rest

def Item.memberValues : List (List (String × Item)) → List Value
  | [] => []
  | fields :: rest => .table (Item.fieldValues fields) :: Item.memberValues rest

end

namespace Fields

def get? (fields : Fields) (key : String) : Option Item :=
  (fields.find? (·.1 = key)).map (·.2)

def set (fields : Fields) (key : String) (item : Item) : Fields :=
  if fields.any (·.1 = key) then fields.map fun f => if f.1 = key then (key, item) else f
  else fields ++ [(key, item)]

def erase (fields : Fields) (key : String) : Fields :=
  fields.filter (·.1 ≠ key)

end Fields

/-- What the way to a table is made of. -/
inductive Way where
  /-- The path in a header. -/
  | header
  /-- The path in a key with dots. -/
  | dotted
  /-- The same, between braces. -/
  | inlined
  deriving DecidableEq, Repr

def Way.newTable : Way → Standing
  | header => .implied
  | dotted | inlined => .dotted

/-- Change the table at the end of a path. Tables that are missing on the way are made. `passed` is the part
of the path that lies behind. -/
def alter (way : Way) (act : Standing → Fields → Except Cause Fields) :
    (passed path : List String) → Standing → Fields → Except Cause Fields
  | _, [], standing, fields => act standing fields
  | passed, key :: path, _, fields =>
    let here := passed ++ [key]
    match fields.get? key with
    | none => do
      let inner ← alter way act here path way.newTable []
      return fields.set key (.table way.newTable inner)
    | some (.value v) =>
      if way = .inlined && v.kind = .inlineTable then .error (.repeatedKey key none)
      else .error (.notTable here v.kind)
    | some (.tables members) => do
      let last ← alter way act here path .header (members.getLast?.getD [])
      return fields.set key (.tables (members.dropLast ++ [last]))
    | some (.table standing inner) =>
      if way ≠ .header && standing = .header then .error (.repeatedKey key none)
      else do
        let inner ← alter way act here path standing inner
        return fields.set key (.table standing inner)

/-- Add a field by its path. `table?` is the path of the table that is written, if it has one to be named by. -/
def addField (way : Way) (table? : Option (List String)) (path : List String) (key : String) (v : Value)
    (fields : Fields) : Except Cause Fields :=
  alter way (fun standing fields =>
    if !path.isEmpty && standing ≠ .dotted then .error (.repeatedKey key none)
    else if (fields.get? key).isSome then .error (.repeatedKey key table?)
    else .ok (fields.set key (.value v))) [] path .header fields

/-- A text so far: the tables that are complete, and the one that fields are added to. -/
structure Draft where
  root : Fields := []
  current : Fields := []
  path : List String := []
  /-- Whether the current table is one of several of its name. -/
  several : Bool := false

namespace Draft

def taken (path : List String) (key : String) : Cause :=
  .repeatedKey (keyText key) (some path)

/-- All tables, with the current one in its place. -/
def finish (d : Draft) : Except Cause Fields :=
  match d.path.getLast? with
  | none => .ok d.current
  | some key =>
    let parent := d.path.dropLast
    alter .header (fun _ fields =>
      match fields.get? key, d.several with
      | none, true => .ok (fields.set key (.tables [d.current]))
      | some (.tables members), true => .ok (fields.set key (.tables (members ++ [d.current])))
      | none, false | some (.table .implied _), false | some (.table .dotted _), false =>
        .ok (fields.set key (.table .header d.current))
      | some _, _ => .error (taken parent key)) [] parent .header d.root

/-- The fields of the table at the end of a path. -/
def fieldsAt : (path : List String) → Fields → Fields
  | [], fields => fields
  | key :: path, fields =>
    match fields.get? key with
    | some (.table _ inner) => fieldsAt path inner
    | some (.tables members) => fieldsAt path (members.getLast?.getD [])
    | some (.value _) | none => []

/-- Begin the table of a header. A table that was implied so far keeps what is in it. -/
def openTable (d : Draft) (parent : List String) (key : String) : Except Cause Draft := do
  let root ← d.finish
  let root ← alter .header (fun _ fields => .ok fields) [] parent .header root
  let current ←
    match (fieldsAt parent root).get? key with
    | none => .ok []
    | some (.table .implied inner) => .ok inner
    | some _ => .error (taken parent key)
  let root ← alter .header (fun _ fields => .ok (fields.erase key)) [] parent .header root
  return ⟨root, current, parent ++ [key], false⟩

/-- Begin one more table of a name. -/
def openMember (d : Draft) (parent : List String) (key : String) : Except Cause Draft := do
  let root ← d.finish
  let root ← alter .header (fun _ fields =>
    match fields.get? key with
    | none => .ok (fields.set key (.tables []))
    | some (.tables _) => .ok fields
    | some _ => .error (taken parent key)) [] parent .header root
  return ⟨root, [], parent ++ [key], true⟩

def add (d : Draft) (path : List String) (key : String) (v : Value) : Except Cause Draft := do
  let current ← addField .dotted (some d.path) path key v d.current
  return { d with current }

end Draft

end Frontmark.Toml
