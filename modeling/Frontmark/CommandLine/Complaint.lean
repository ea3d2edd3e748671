import Frontmark.CommandLine.Help
import Frontmark.Text.ControlSequence

/-! What is said in place of running a command. -/

set_option autoImplicit false

namespace Frontmark.CommandLine

inductive Fault where
  | unknown (text : String)
  | unknownCommand (name : String)
  | missing (arguments : List Argument)
  | noValue (a : Argument)
  | badValue (a : Argument) (value : String)
  /-- A value for an argument that has none. -/
  | needlessValue (a : Argument) (value : String)
  | repeated (a : Argument)

inductive Tip where
  | argument (name : String)
  /-- An option of a subcommand. -/
  | ofSubcommand (name option : String)
  | commands (names : List String)
  | value (value : String)
  /-- What begins with a hyphen can stand for itself. -/
  | asValue (text : String)
  /-- Subcommands are not known as such behind two hyphens. -/
  | withoutHyphens (command : String)

structure Complaint where
  command : Command
  fault : Fault
  tip? : Option Tip := none
  usage? : Option String := none

/-- Why arguments do not make a command run. -/
inductive Stop where
  | help (c : Command) (length : Length)
  | version (c : Command)
  /-- Nothing is asked for. -/
  | bare (c : Command)
  | complaint (c : Complaint)

def possibleValues (a : Argument) : String :=
  if a.values.isEmpty then "" else "\n  [possible values: " ++ ", ".intercalate a.values ++ "]"

/-- A text of a call, without what a terminal would obey. -/
def said (text : String) : String :=
  Text.ControlSequence.strip text

def Fault.message : Fault → String
  | unknown text => "unexpected argument '" ++ said text ++ "' found"
  | unknownCommand name => "unrecognized subcommand '" ++ said name ++ "'"
  | missing arguments =>
    "the following required arguments were not provided:" ++ String.join (arguments.map ("\n  " ++ ·.shown))
  | noValue a => "a value is required for '" ++ a.shown ++ "' but none was supplied" ++ possibleValues a
  | badValue a value =>
    (if value.isEmpty then "a value is required for '" ++ a.shown ++ "' but none was supplied"
    else "invalid value '" ++ said value ++ "' for '" ++ a.shown ++ "'") ++ possibleValues a
  | needlessValue a value => "unexpected value '" ++ said value ++ "' for '" ++ a.shown ++ "' found; no more were expected"
  | repeated a => "the argument '" ++ a.shown ++ "' cannot be used multiple times"

def Tip.message : Tip → String
  | argument name => "a similar argument exists: '--" ++ name ++ "'"
  | ofSubcommand name option => "'" ++ name ++ " --" ++ option ++ "' exists"
  | commands names =>
    (if names.length = 1 then "a similar subcommand exists: " else "some similar subcommands exist: ") ++
      ", ".intercalate (names.map fun n => "'" ++ n ++ "'")
  | value v => "a similar value exists: '" ++ v ++ "'"
  | asValue text => "to pass '" ++ said text ++ "' as a value, use '-- " ++ said text ++ "'"
  | withoutHyphens command => "subcommand '" ++ command ++ "' exists; to use it, remove the '--' before it"

def Complaint.message (c : Complaint) : String :=
  "error: " ++ c.fault.message ++
    c.tip?.elim "" (fun t => "\n\n  tip: " ++ t.message) ++
    c.usage?.elim "" ("\n\nUsage: " ++ ·) ++
    (if c.command.options.any (·.form = .help) then "\n\nFor more information, try '--help'.\n" else "\n")

/-- What is written, the status with which the program ends, and whether it is no error. -/
def Stop.answer (version : String) : Stop → Bool × Nat × String
  | help c length => (true, 0, c.help length)
  | .version c => (true, 0, c.path ++ " " ++ version ++ "\n")
  | bare c => (false, 2, c.help .short)
  | complaint c => (false, 2, c.message)

end Frontmark.CommandLine
