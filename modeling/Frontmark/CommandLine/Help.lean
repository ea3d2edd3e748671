import Frontmark.CommandLine.Command

/-! Help on commands.

Where there is a longer account of a command, its help has a long and a short form, and each refers to the other. -/

set_option autoImplicit false

namespace Frontmark.CommandLine

inductive Length where
  | short
  | long
  deriving DecidableEq, Repr

namespace Command

/-- The form in which help is given. -/
def length (c : Command) (wanted : Length) : Length :=
  if c.longAbout?.isSome then wanted else .short

def aboutHelp (c : Command) (wanted : Length) : String :=
  if c.longAbout?.isNone then "Print help"
  else
    match wanted with
    | .short => "Print help (see more with '--help')"
    | .long => "Print help (see a summary with '-h')"

def aboutArgument (c : Command) (wanted : Length) (a : Argument) : String :=
  match a.form with
  | .help => c.aboutHelp wanted
  | .version => "Print version"
  | _ =>
    if a.values.isEmpty then a.about
    else
      let gap := if c.length wanted = .long then "\n\n" else " "
      a.about ++ gap ++ "[possible values: " ++ ", ".intercalate a.values ++ "]"

/-- An argument with both of its names. -/
def entry (a : Argument) : String :=
  if a.isPositional then a.shown
  else
    match a.short? with
    | some x => String.ofList ['-', x, ',', ' '] ++ a.shown
    | none => "    " ++ a.shown

def pad (width : Nat) (s : String) : String :=
  s ++ String.ofList (List.replicate (width - s.length) ' ')

/-- A title and entries with what is said about them: beside them, or below them with lines between the entries. -/
def listing (title : String) (length : Length) (entries : List (String × String)) : String :=
  let width := (entries.map (·.1.length)).foldl max 0
  match length with
  | .short => title ++ ":\n" ++ String.join (entries.map fun (e, about) => "  " ++ pad width e ++ "  " ++ about ++ "\n")
  | .long => title ++ ":\n" ++ "\n".intercalate (entries.map fun (e, about) => "  " ++ e ++ "\n          " ++ about ++ "\n")

def help (c : Command) (wanted : Length) : String :=
  let length := c.length wanted
  let about :=
    match length with
    | .short => c.about
    | .long => c.longAbout?.getD c.about
  let listed (title : String) (arguments : List Argument) : List String :=
    if arguments.isEmpty then []
    else [listing title length (arguments.map fun a => (entry a, c.aboutArgument wanted a))]
  let commands : List String :=
    if c.subcommands.isEmpty then []
    else [listing "Commands" .short (c.subcommands.map fun sub => (sub.name, sub.about))]
  "\n".intercalate ([about ++ "\n", "Usage: " ++ c.usage ++ "\n"] ++ commands ++
    listed "Arguments" c.positionals ++ listed "Options" c.options)

end Command

end Frontmark.CommandLine
