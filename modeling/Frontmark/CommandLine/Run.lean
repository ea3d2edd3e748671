import Frontmark.Attributes.Shape
import Frontmark.CommandLine.Invocation
import Frontmark.Document
import Frontmark.Settings.Layers

/-! Running the program.

All that can fail comes before anything is written. -/

set_option autoImplicit false

namespace Frontmark.CommandLine

open Frontmark.Markup (Forest View)

structure Outcome where
  status : Nat := 0
  output : String := ""
  errors : String := ""
  deriving DecidableEq, Repr

/-- What is to be done in the end. -/
inductive Action where
  | finish (o : Outcome)
  | write (path text : String)
  deriving DecidableEq, Repr

def failure (message : String) : Outcome :=
  { status := 1, errors := message ++ "\n" }

def Stop.outcome (s : Stop) : Outcome :=
  match s.answer programVersion with
  | (true, status, text) => { status, output := text }
  | (false, status, text) => { status, errors := text }

def settingsFile : String := "mdex.toml"

/-- The layers of settings, the last one on top. -/
def Invocation.layers (i : Invocation) : List Settings.Layer :=
  .optionalFile settingsFile :: i.settings?.toList.map .file

abbrev Attempt (α : Type) := Except Outcome α

def options (read : FileReader) (i : Invocation) : Attempt Options :=
  (Settings.load read i.layers).mapError fun e => failure ("Failed to load configuration: " ++ e.message)

def readText (read : FileReader) (path : String) : Except FileError String := do
  match Text.Utf8.decode? (← read path) with
  | some text => return text
  | none => throw .notText

def document (read : FileReader) (o : Options) (path : String) : Attempt Document := do
  let text ← (readText read path).mapError fun e => failure ("Error reading file '" ++ path ++ "': " ++ e.message)
  (Document.read o text).mapError fun e => failure ("Parse error: " ++ e.message)

def headerJson (header : String) : Attempt String :=
  match Attributes.Shape.value.json (some header) with
  | .ok j => .ok (j.pretty 0)
  | .error (.header cause) => .error (failure ("Error: " ++ cause.message))
  | .error (.unwritable cause) =>
    .error (failure ("Error: front matter cannot be expressed as JSON: " ++ cause.message))

def print (text : String) : Action :=
  .finish { output := text }

def Task.attempt (read : FileReader) (o : Options) : Task → Attempt Action
  | .roundTrip path output? => do
    let d ← document read o path
    match output? with
    | some target => return .write target d.toMarkdown
    | none => return print d.toMarkdown
  | .header path asJson => do
    let d ← document read o path
    match d.header with
    | none => throw (failure ("No front matter in '" ++ path ++ "'"))
    | some text =>
      let shown ← if asJson then headerJson text else .ok text
      return print (shown ++ "\n")
  | .inspect path view => do
    let d ← document read o path
    return print (view.page (Forest.ofTree d.body) 0)
  | .nothing => throw (failure "Unknown subcommand. Use --help for usage information.")

def Invocation.decide (read : FileReader) (i : Invocation) : Action :=
  match options read i >>= fun o => i.task.attempt read o with
  | .ok action => action
  | .error o => .finish o

def decide (read : FileReader) (arguments : List String) : Action :=
  match Invocation.read arguments with
  | .ok i => i.decide read
  | .error stop => .finish stop.outcome

/-- How the program ends if a file could be written, or not. -/
def written (path : String) : Except FileError Unit → Outcome
  | .ok () => {}
  | .error e => failure ("Error writing file '" ++ path ++ "': " ++ e.message)

/-- Run the program in a folder. -/
def run (arguments : List String) (f : Folder) : Outcome × Folder :=
  match decide f.read arguments with
  | .finish o => (o, f)
  | .write path text =>
    match f.write path text.toUTF8.toList with
    | .ok f => (written path (.ok ()), f)
    | .error e => (written path (.error e), f)

/-- The files that may be read. -/
def Invocation.sources (i : Invocation) : List String :=
  let settings := settingsFile :: i.settings?.toList
  let inputs :=
    match i.task with
    | .roundTrip path _ | .header path _ | .inspect path _ => [path]
    | .nothing => []
  settings ++ settings.filterMap Settings.withExtension ++ inputs

end Frontmark.CommandLine
