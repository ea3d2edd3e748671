import Frontmark.Folder
import Frontmark.Settings.Record
import Frontmark.Text.Utf8
import Frontmark.Toml.Reader

/-! Options from layers of settings.

Files are laid one over the other in their order, field by field, over the defaults. Overrides are laid over all
of the files, wherever they stand among the layers. -/

set_option autoImplicit false

namespace Frontmark.Settings

def extensions (o : Options) (v : Value) : Reading Options := do
  let r ← Record.ofValue "ExtensionsConfig" 6 v
  let strikethrough ← r.field? 0 "strikethrough" boolean
  let table ← r.field? 1 "table" boolean
  let autolink ← r.field? 2 "autolink" boolean
  let tasklist ← r.field? 3 "tasklist" boolean
  let footnotes ← r.field? 4 "footnotes" boolean
  let superscript ← r.field? 5 "superscript" boolean
  return { o with
    strikethrough := ← required "strikethrough" strikethrough
    table := ← required "table" table
    autolink := ← required "autolink" autolink
    tasklist := ← required "tasklist" tasklist
    footnotes := ← required "footnotes" footnotes
    superscript := ← required "superscript" superscript }

def parser (o : Options) (v : Value) : Reading Options := do
  let r ← Record.ofValue "ParserConfig" 2 v
  let smart ← r.field? 0 "smart" boolean
  let o? ← r.field? 1 "extensions" (extensions o)
  let smart ← required "smart" smart
  return { (← required "extensions" o?) with smart }

def header (o : Options) (v : Value) : Reading Options := do
  let r ← Record.ofValue "HeaderConfig" 1 v
  let validateHeader ← r.field? 0 "validate_yaml" boolean
  return { o with validateHeader := ← required "validate_yaml" validateHeader }

def options (root : Value) : Reading Options := do
  let r ← Record.ofValue "MdexConfig" 2 root
  let o? ← r.field? 0 "parser" (parser {})
  let o ← required "parser" o?
  let o? ← r.field? 1 "header" (header o)
  required "header" o?

def switches (names : List String) (b : Bool) : List (String × Value) :=
  names.map (·, .boolean b)

def defaults : Value :=
  .table none [
    ("parser", .table none [
      ("smart", .boolean false),
      ("extensions", .table none
        (switches ["strikethrough", "table", "autolink", "tasklist", "footnotes", "superscript"] false))]),
    ("header", .table none (switches ["validate_yaml"] true))]

inductive Layer where
  | file (name : String)
  /-- A file that need not be there. -/
  | optionalFile (name : String)
  | override (key : String) (value : Value)

/-- The steps of a path without those that lead nowhere. -/
def plainSteps (path : String) : List String :=
  (Folder.steps path).filter fun s => s ≠ "" && s ≠ "."

/-- The name with an extension, which is added even if there is one; there is none without a name. -/
def withExtension (name : String) : Option String :=
  match (plainSteps name).reverse with
  | [] => none
  | last :: _ =>
    if last = ".." then none
    else some (String.intercalate "/" ((plainSteps name).dropLast ++ [last ++ ".toml"]))

/-- The path of a file of settings, which is named with or without its extension, and what it holds. -/
def findFile (read : FileReader) (name : String) : Option (String × List UInt8) :=
  match read name with
  | .ok content => some (name, content)
  | .error _ =>
    (withExtension name).bind fun path =>
      match read path with
      | .ok content => some (path, content)
      | .error _ => none

/-- Why a file is refused whose text stands for something else than a table. -/
def notTable (uri : String) (v : Value) : String :=
  "invalid type: " ++ describe v ++ ", expected a map in " ++ uri

/-- Lay the text of a file over settings. Its outermost keys can be keys with several steps. -/
def layText (file text : String) (root : Value) : Reading Value :=
  let uri := String.intercalate "/" (plainSteps file)
  match Toml.read text.toList with
  | .error cause => .error (.badFile uri (cause.message text.toList))
  | .ok (.table fields) =>
    .ok (fields.foldl (fun root (name, v) =>
      let key :=
        match Key.read name with
        | .ok key => key
        | .error _ => ⟨name, []⟩
      root.set key (.ofToml uri v)) root)
  | .ok v => .error (.badFile uri (notTable uri (.ofToml uri v)))

/-- What is wrong with a file that cannot be read counts only where it has to be there. -/
def layFile (read : FileReader) (name : String) (root : Value) : Reading Value :=
  match findFile read name with
  | none => .error (.noFile name)
  | some (file, content) =>
    match Text.Utf8.decode? content with
    | none => .error .notText
    | some text => layText file text root

def layFiles (read : FileReader) : List Layer → Value → Reading Value
  | [], root => .ok root
  | .file name :: layers, root => do layFiles read layers (← layFile read name root)
  | .optionalFile name :: layers, root =>
    match layFile read name root with
    | .error (.noFile _) | .error .notText => layFiles read layers root
    | .error cause => .error cause
    | .ok root => layFiles read layers root
  | .override .. :: layers, root => layFiles read layers root

/-- The keys of the overrides with their values. -/
def overrides : List Layer → Reading (List (Key × Value))
  | [] => .ok []
  | .override key v :: layers =>
    match Key.read key with
    | .error cause => .error (.badKey cause)
    | .ok key => do return (key, v) :: (← overrides layers)
  | _ :: layers => overrides layers

/-- The last of several overrides of one key holds. -/
def layOverrides : List (Key × Value) → Value → Value
  | [], root => root
  | (key, v) :: more, root =>
    if more.any (·.1 = key) then layOverrides more root else layOverrides more (root.set key v)

def load (read : FileReader) (layers : List Layer) : Reading Options := do
  let overrides ← overrides layers
  let root ← layFiles read layers defaults
  options (layOverrides overrides root)

end Frontmark.Settings
