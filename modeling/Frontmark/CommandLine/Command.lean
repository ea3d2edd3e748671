/-! Commands and their arguments. -/

set_option autoImplicit false

namespace Frontmark.CommandLine

inductive Form where
  /-- An argument that is known by its place. If `values` is not empty, it is one of them. -/
  | positional (required : Bool) (values : List String)
  /-- An argument for which any number of values can stand. -/
  | several
  /-- An option that is followed by its value. -/
  | option (value : String)
  | flag
  | help
  | version
  deriving DecidableEq, Repr

structure Argument where
  name : String
  short? : Option Char := none
  form : Form
  about : String := ""
  deriving DecidableEq, Repr

structure Command where
  name : String
  /-- The words with which it is called. -/
  path : String
  about : String
  longAbout? : Option String := none
  /-- In the order in which they are listed. -/
  arguments : List Argument
  subcommands : List Command := []

namespace Argument

def isPositional (a : Argument) : Bool :=
  match a.form with
  | .positional .. | .several => true
  | _ => false

def isRequired (a : Argument) : Bool :=
  match a.form with
  | .positional required _ => required
  | _ => false

/-- The values among which that of the argument has to be. -/
def values (a : Argument) : List String :=
  match a.form with
  | .positional _ values => values
  | _ => []

/-- How the argument is written. -/
def usage (a : Argument) (required : Bool) : String :=
  match a.form with
  | .positional .. => if required then "<" ++ a.name ++ ">" else "[" ++ a.name ++ "]"
  | .several => "[" ++ a.name ++ "]..."
  | .option value => "--" ++ a.name ++ " <" ++ value ++ ">"
  | .flag | .help | .version => "--" ++ a.name

def shown (a : Argument) : String :=
  a.usage a.isRequired

end Argument

namespace Command

def positionals (c : Command) : List Argument :=
  c.arguments.filter (·.isPositional)

def options (c : Command) : List Argument :=
  c.arguments.filter (!·.isPositional)

def long? (c : Command) (name : String) : Option Argument :=
  c.options.find? (·.name = name)

def short? (c : Command) (x : Char) : Option Argument :=
  c.options.find? (·.short? = some x)

def subcommand? (c : Command) (name : String) : Option Command :=
  c.subcommands.find? (·.name = name)

/-- Whether there are options that do more than show help. -/
def hasOptions (c : Command) : Bool :=
  c.options.any fun a => a.form ≠ .help && a.form ≠ .version

/-- How the command is called in general. -/
def usage (c : Command) : String :=
  " ".intercalate ([c.path] ++ (if c.hasOptions then ["[OPTIONS]"] else []) ++ c.positionals.map (·.shown) ++
    if c.subcommands.isEmpty then [] else ["[COMMAND]"])

/-- How the command is called with some of its arguments, in their order. -/
def usageWith (c : Command) (used : List Argument) : String :=
  let options := used.filter (!·.isPositional)
  let positional (a : Argument) : String := a.usage (a.isRequired || used.contains a)
  " ".intercalate ([c.path] ++ (options.map (·.shown)).eraseDups ++ c.positionals.map positional)

end Command

end Frontmark.CommandLine
