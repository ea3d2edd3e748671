import Frontmark.CommandLine.Reader
import Frontmark.Markup.View

/-! The commands of the program, and what they are called for. -/

set_option autoImplicit false

namespace Frontmark.CommandLine

open Frontmark.Markup (View)

def programVersion : String := "0.1.0"

def configuration : Argument :=
  { name := "config", form := .option "PATH", about := "Path to a mdex.toml configuration file" }

def input : Argument :=
  { name := "input", form := .positional true [], about := "Input file path" }

def output : Argument :=
  { name := "output", short? := 'o', form := .option "output", about := "Output file path (defaults to stdout)" }

def asJson : Argument :=
  { name := "json", form := .flag, about := "Print the attributes as JSON" }

def view : Argument :=
  { name := "view", form := .positional false (View.all.map View.name), about := "View to print. Defaults to 'events'" }

def helpFlag : Argument :=
  { name := "help", short? := 'h', form := .help }

def versionFlag : Argument :=
  { name := "version", short? := 'V', form := .version }

def roundTripCommand : Command :=
  { name := "roundtrip"
    path := "mdex roundtrip"
    about := "Parse and re-serialize a document (default command)"
    arguments := [input, configuration, output, helpFlag] }

def headerCommand : Command :=
  { name := "header"
    path := "mdex header"
    about := "Print the front matter of a document"
    longAbout? := "Print the front matter of a document verbatim, or with --json as its\n" ++
      "attributes. Exits with status 1 when the document has no front matter."
    arguments := [input, configuration, asJson, helpFlag] }

def inspectCommand : Command :=
  { name := "inspect"
    path := "mdex inspect"
    about := "Print the body AST of a document"
    arguments := [input, view, configuration, helpFlag] }

def helpOnCommand : Command :=
  { name := helpCommand
    path := "mdex help"
    about := "Print this message or the help of the given subcommand(s)"
    arguments := [{ name := "COMMAND", form := .several, about := "Print help for the subcommand(s)" }] }

def program : Command :=
  { name := "mdex"
    path := "mdex"
    about := "Round-trip Markdown documents with front matter"
    longAbout? := "mdex parses a Markdown document with optional YAML front matter and writes it\n" ++
      "back out in a normalized form.\n\n" ++
      "Examples:\n" ++
      "  mdex post.md                      # Round-trip to stdout\n" ++
      "  mdex post.md -o normalized.md     # Round-trip to a file\n" ++
      "  mdex header post.md --json        # Front matter as JSON\n" ++
      "  mdex inspect post.md tree         # Body AST"
    arguments := [configuration, helpFlag, versionFlag]
    subcommands := [roundTripCommand, headerCommand, inspectCommand, helpOnCommand] }

inductive Task where
  | roundTrip (input : String) (output? : Option String)
  | header (input : String) (asJson : Bool)
  | inspect (input : String) (view : View)
  /-- No command is called. -/
  | nothing
  deriving DecidableEq, Repr

structure Invocation where
  /-- The file with the settings for this time. -/
  settings? : Option String
  task : Task
  deriving DecidableEq, Repr

def valueOf? (values : Values) (a : Argument) : Option String :=
  (values.find? (·.1 = a)).map (·.2)

def Task.ofValues (command : String) (values : Values) : Task :=
  let path := (valueOf? values input).getD ""
  if command = roundTripCommand.name then .roundTrip path (valueOf? values output)
  else if command = headerCommand.name then .header path (valueOf? values asJson).isSome
  else if command = inspectCommand.name then
    .inspect path (((valueOf? values view).bind View.ofName?).getD .events)
  else .nothing

/-- What is said to a subcommand goes before what is said to the program. -/
def Invocation.ofValues (found : List (String × Values)) : Invocation :=
  { settings? := found.reverse.findSome? fun (_, values) => valueOf? values configuration
    task := found.getLast?.elim .nothing fun (command, values) => Task.ofValues command values }

def isCommandName (s : String) : Bool :=
  (program.subcommand? s).isSome

/-- Read the arguments of the program. If they are no call as they stand, they are read as those of the default
command, unless one of them is the name of a command or all of them are options. -/
def Invocation.read (arguments : List String) : Reading Invocation :=
  match CommandLine.read program arguments with
  | .ok found => .ok (ofValues found)
  | .error stop =>
    if arguments.any isCommandName || arguments.all (·.startsWith "-") then .error stop
    else (CommandLine.read program (roundTripCommand.name :: arguments)).map ofValues

end Frontmark.CommandLine
