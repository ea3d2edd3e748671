import Frontmark.Decimal.Form
import Frontmark.Text.Quoted
import Frontmark.Yaml.Document
import Frontmark.Yaml.Scalar

/-! The value of a YAML text.

Nodes are followed in the order of the text. An alias stands for a copy of its node, and so that a short
text cannot stand for an immense value the copies are limited, as is the depth of collections. -/

set_option autoImplicit false

namespace Frontmark.Yaml

/-- Where a value is, seen from the root. -/
inductive Path where
  | root
  | item (parent : Path) (index : Nat)
  | entry (parent : Path) (key : String)
  /-- The value of an entry whose key is not a scalar. -/
  | unknown (parent : Path)
  /-- The copy of a node in the place of an alias. -/
  | copy (place : Path)
  deriving DecidableEq, Repr

namespace Path

def isRoot : Path → Bool
  | root => true
  | _ => false

def text : Path → String
  | root => "."
  | item p index => p.text ++ "[" ++ toString index ++ "]"
  | entry p key => (if p.isRoot then "" else p.text ++ ".") ++ key
  | unknown p => (if p.isRoot then "" else p.text ++ ".") ++ "?"
  | copy p => p.text

end Path

/-- Why a text has no value. -/
inductive Error where
  | malformed (fault : Malformed)
  | unknownAnchor (mark : Mark)
  | tooDeep (mark : Mark)
  | tooManyCopies
  | severalDocuments
  | invalid (fault : Fault) (mark : Mark) (path : Path)

def quote (text : String) : String :=
  Text.Quoted.quote text

/-- How a repeated key is shown. -/
def keyText : Value → String
  | .null => "with null key"
  | .bool b => "with key \x60" ++ toString b ++ "\x60"
  | .integer n => "with key " ++ toString n
  | .real x => "with key " ++ Decimal.Form.key.write x
  | .text s => "with key " ++ quote s
  | .sequence _ | .mapping _ | .tagged .. => "in YAML map"

def Fault.message : Fault → String
  | wideInteger n =>
    "invalid type: integer \x60" ++ toString n ++ "\x60 as " ++ (if n < 0 then "i128" else "u128") ++
      ", expected any YAML value"
  | unfit text expected => "invalid value: string " ++ quote text ++ ", expected " ++ expected.text
  | repeatedKey key => "duplicate entry " ++ keyText key

def Error.message : Error → String
  | malformed fault => fault.message
  | unknownAnchor mark => "unknown anchor" ++ mark.text?
  | tooDeep mark => "recursion limit exceeded" ++ mark.text?
  | tooManyCopies => "repetition limit exceeded"
  | severalDocuments => "deserializing from YAML containing more than one document is not supported"
  | invalid fault mark path =>
    (if path.text = Path.root.text then "" else path.text ++ ": ") ++ fault.message ++ mark.text?

def Stop.error : Stop → Error
  | malformed fault => .malformed fault
  | unknownAnchor mark => .unknownAnchor mark

def depthLimit : Nat := 128

def copiesPerEvent : Nat := 100

/-- What a document supplies to the reading of its nodes. -/
structure Source where
  /-- The nodes with anchors, the last one first. -/
  targets : List (Nat × Node)
  copyLimit : Nat
  stop : Error

/-- Reading keeps count of the copies. -/
abbrev Read := StateT Nat (Except Error)

namespace Source

/-- The node that an alias refers to, which is the last one with its number. -/
def target? (s : Source) (anchor : Nat) : Option Node :=
  (s.targets.find? (·.1 = anchor)).map (·.2)

def resolve (s : Source) : Node → Read Node
  | .reference _ anchor => do
    let copies ← get
    set (copies + 1)
    if s.copyLimit < copies + 1 then throw .tooManyCopies
    else return (s.target? anchor).getD .stop
  | node => return node

end Source

/-- Whether a tag is a local one. -/
def isLocal (tag : List UInt8) : Bool :=
  (Text.Utf8.encode ['!']).isPrefixOf tag

/-- The local tag of a node, if it has one and that is text. -/
def Properties.localTag? (p : Properties) : Option String :=
  (p.tag?.filter isLocal).bind Text.Utf8.decode?

/-- The value with its tag. -/
def wrap (tag? : Option String) (v : Value) : Value :=
  match tag? with
  | none => v
  | some tag => .tagged (bareName tag) v

/-- The value of a scalar. Tags of the standard other than the four that are checked say that it is text. -/
def scalarValue (tag? : Option (List UInt8)) (plain : Bool) (text : String) : Except Fault Value :=
  match tag? with
  | none => if plain then plainValue text else .ok (.text text)
  | some tag =>
    match (Text.Utf8.decode? tag).bind CoreTag.ofText? with
    | some core => coreValue core text
    | none => if plain && isLocal tag then plainValue text else .ok (.text text)

def judge (mark : Mark) (path : Path) (r : Except Fault Value) : Read Value :=
  match r with
  | .ok v => return v
  | .error fault => throw (.invalid fault mark path)

/-- Read the items of a sequence by `read`. -/
def readItems (read : Path → Node → Read Value) (path : Path) : Nat → List Node → Read (List Value)
  | _, [] => return []
  | index, node :: nodes => do
    let v ← read (.item path index) node
    let vs ← readItems read path (index + 1) nodes
    return v :: vs

def nodePath (path : Path) : Node → Path
  | .reference .. => .copy path
  | _ => path

def valuePath (path : Path) : Node → Path
  | .scalar _ _ text => .entry path text
  | _ => .unknown path

/-- Read the entries of a mapping, its keys by `readKey` and their values by `read`. A key that is there already
is refused before its value is read. `entries` are those before, the last one first. -/
def readEntries (readKey read : Path → Node → Read Value) (mark : Mark) (path : Path) :
    (entries : List (Value × Value)) → List (Node × Node) → Read (List (Value × Value))
  | entries, [] => return entries.reverse
  | entries, (key, value) :: rest => do
    let k ← readKey path key
    match entries.find? (·.1.same k) with
    | some (first, _) => throw (.invalid (.repeatedKey first) mark path)
    | none =>
      let v ← read (valuePath path key) value
      readEntries readKey read mark path ((k, v) :: entries) rest

def isReference : Node → Bool
  | .reference .. => true
  | _ => false

/-- Read a node that has no more than `depth` collections in it, one in the other. If it is a key of a mapping
with a local tag, as `ofTagged` says, a tag of its own does not count. -/
def evaluate (s : Source) : (depth : Nat) → (ofTagged : Bool) → Path → Node → Read Value
  | depth, ofTagged, place, node => do
    let path := nodePath place node
    let tagged := ofTagged && !isReference node
    let localTag? (p : Properties) : Option String := if tagged then none else p.localTag?
    match ← s.resolve node with
    | .stop | .reference .. => throw s.stop
    | .scalar p plain text =>
      let v ← judge p.mark path (scalarValue (if tagged then none else p.tag?) plain text)
      return wrap (localTag? p) v
    | .sequence p items =>
      match depth with
      | 0 => throw (.tooDeep p.mark)
      | depth + 1 => return wrap (localTag? p) (.sequence (← readItems (evaluate s depth false) path 0 items))
    | .mapping p entries =>
      match depth with
      | 0 => throw (.tooDeep p.mark)
      | depth + 1 =>
        let readKey := evaluate s depth (tagged || (localTag? p).isSome)
        return wrap (localTag? p) (.mapping (← readEntries readKey (evaluate s depth false) p.mark path [] entries))

/-- The value of a document with nothing else beside it. -/
def Document.value (d : Document) : Except Error Value := do
  let stop : Error := d.stop?.elim (.malformed { problem := .endOfText }) Stop.error
  let root := d.root?.getD (.scalar { mark := {} } true "")
  let s : Source := ⟨root.targets.reverse, copiesPerEvent * d.events, stop⟩
  let (v, _) ← (evaluate s depthLimit false .root root).run 0
  if d.stop?.isSome then throw stop
  else if d.continues then throw .severalDocuments
  else return v

/-- The value of a text, which has to be a single document. -/
def read (text : String) : Except Error Value :=
  (readDocument (tokens text.toList)).value

end Frontmark.Yaml
