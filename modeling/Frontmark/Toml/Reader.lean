import Frontmark.Toml.Moment
import Frontmark.Toml.Number
import Frontmark.Toml.Resolve
import Frontmark.Toml.Table
import Frontmark.Toml.Text

/-! Reading TOML texts. -/

set_option autoImplicit false

namespace Frontmark.Toml

/-- Keys have fewer parts than this, and collections are nested less deeply. -/
def depthLimit : Nat := 80

section

variable {α : Type}

/-- What is separated from something before it. `items` are those before, the last one first. -/
def moreSeparated (item : Scan α) (separator : Char) : Nat → (items : List α) → Scan (List α)
  | 0, items => return items.reverse
  | fuel + 1, items => do
    match ← Scan.optional (do Scan.exactly [separator]; item) with
    | some x => moreSeparated item separator fuel (x :: items)
    | none => return items.reverse

def separated (item : Scan α) (separator : Char) : Scan (List α) := do
  match ← Scan.optional item with
  | some x => moreSeparated item separator (← get).length [x]
  | none => return []

end

def simpleKey : Scan String := do
  match ← Scan.head? with
  | none => Scan.fault
  | some c =>
    let text ←
      if c = '"' then basicString
      else if c = '\'' then literalString
      else do
        let c ← Scan.one isKeyChar
        let more ← Scan.takeWhile isKeyChar
        pure (c :: more)
    return String.ofList text

def keyPart : Scan String := do
  blanks
  let key ← simpleKey
  blanks
  return key

/-- The path to a field, and its own name at the end. -/
def key : Scan (List String × String) := do
  let start ← get
  let (first, more) ← Scan.named .key do
    let first ← keyPart
    let parts ← moreSeparated keyPart '.' (← get).length [first]
    pure (first, parts.drop 1)
  if depthLimit ≤ more.length + 1 then Scan.refuse start .tooDeep
  else return ((first :: more).dropLast, more.getLast?.getD first)

def equals : Scan Unit :=
  Scan.expecting [.sign ".", .sign "="] (Scan.exactly ['='])

def arrayItem (value : Scan Value) : Scan Value := do
  gaps ((← get).length + 1)
  let v ← value
  gaps ((← get).length + 1)
  return v

def array (value : Scan Value) : Scan Value := do
  Scan.skip
  let items ← Scan.firmly do
    if (← Scan.head?) = some ']' then pure []
    else do
      let items ← separated (arrayItem value) ','
      if !items.isEmpty then
        let _ ← Scan.optional (Scan.exactly [','])
      gaps ((← get).length + 1)
      pure items
  Scan.firmly (Scan.named .array (Scan.expecting [.sign "]"] (Scan.exactly [']'])))
  return .array items

def inlineField (value : Scan Value) : Scan ((List String × String) × Value) := do
  let k ← key
  Scan.firmly do
    equals
    blanks
    let start ← get
    let v ← value
    let v := v.placeFor k.2 start (← get)
    blanks
    return (k, v)

def inlineTable (value : Scan Value) : Scan Value := do
  Scan.skip
  let fields ← Scan.firmly do
    let start ← get
    let pairs ← separated (inlineField value) ','
    blanks
    match pairs.foldlM (fun fields ((path, key), v) => addField .inlined none path key v fields) ([] : Fields) with
    | .ok fields => pure fields
    | .error cause => Scan.refuse start cause
  Scan.firmly (Scan.named .inlineTable (Scan.expecting [.sign "\x7d"] (Scan.exactly ['\x7d'])))
  return .table (Item.fieldValues fields)

/-- A word that is a value. What does not spell one is taken for a string without its quotes. -/
def word {α : Type} (p : Scan α) : Scan α :=
  Scan.named .string (Scan.expecting [.sign "\"", .sign "'"] p)

def number : Scan Value := do
  match ← Scan.optional dateTime with
  | some text => return .datetime text
  | none =>
    match ← Scan.optional float with
    | some v => return v
    | none => integer

/-- Read a value, whose collections are read by `collection`. -/
def valueWith (collection : Char → Scan Value) : Scan Value := do
  match ← Scan.head? with
  | none => Scan.fault
  | some c =>
    if c = '"' || c = '\'' then return .string (String.ofList (← string))
    else if c = '[' || c = '\x7b' then collection c
    else if isSign c || Text.isDigit c then number
    else if c = '_' then Scan.expecting [.leadingDigit] integer
    else if c = '.' then Scan.expecting [.leadingDigit] float
    else if c = 't' then word (Scan.firmly (do Scan.exactly "true".toList; return .boolean true))
    else if c = 'f' then word (Scan.firmly (do Scan.exactly "false".toList; return .boolean false))
    else if c = 'i' || c = 'n' then word special
    else word Scan.fault

/-- Read a value with no more than `depth` collections in it, one in the other. -/
def value : (depth : Nat) → Scan Value
  | 0 => valueWith fun _ => Scan.firmly do Scan.refuse (← get) .tooDeep
  | depth + 1 => valueWith fun c => if c = '[' then array (value depth) else inlineTable (value depth)

def accept (start : List Char) : Except Cause Draft → Scan Draft
  | .ok d => return d
  | .error cause => Scan.refuse start cause

def field (d : Draft) : Scan Draft := do
  let start ← get
  let (path, name) ← key
  let v ← Scan.firmly do
    equals
    blanks
    let start ← get
    let v ← value (depthLimit - 1)
    let v := v.placeFor name start (← get)
    restOfLine
    pure v
  accept start (d.add path name v)

/-- Read the header of a table between brackets, or of one of several tables, between two brackets each. -/
def header (d : Draft) : Scan Draft :=
  Scan.named .tableHeader do
    let start ← get
    if start.length < 2 then Scan.fault
    else
      let several ← Scan.isAt ['[', '[']
      let closing := if several then "]]" else "]"
      modify (List.drop closing.length)
      let (parent, name) ← Scan.firmly do
        let path ← key
        Scan.expecting [.sign ".", .sign closing] (Scan.exactly closing.toList)
        restOfLine
        pure path
      accept start (if several then d.openMember parent name else d.openTable parent name)

/-- Read the lines of a text. -/
def draftLines : Nat → Draft → Scan Draft
  | 0, d => return d
  | fuel + 1, d => do
    match ← Scan.head? with
    | none => return d
    | some c =>
      let d ←
        if c = '#' then do comment; lineEnd; pure d
        else if c = '[' then header d
        else if isEnd c then do lineEnd; pure d
        else field d
      blanks
      draftLines fuel d

def draft : Scan Draft := do
  if (← Scan.head?) = some '\ufeff' then Scan.skip
  blanks
  draftLines ((← get).length + 1) {}

/-- The value of a text: a table, unless its first key is the reserved one. -/
def read (text : List Char) : Except Failure Value := do
  let (d, rest) ← draft.run text
  match d.finish with
  | .ok fields => (Value.table (Item.fieldValues fields)).resolve
  | .error cause => throw { rest, cause? := some cause }

end Frontmark.Toml
