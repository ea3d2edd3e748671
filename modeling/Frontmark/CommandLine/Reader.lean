import Frontmark.CommandLine.Complaint
import Frontmark.Text.Likeness

/-! Reading the arguments of a command.

An argument is stored when the next one begins, or at the end. So if two things are wrong, the one that is seen
first is not always the one that is said. -/

set_option autoImplicit false

namespace Frontmark.CommandLine

open Frontmark.Text.Likeness (similar)

/-- Arguments with their values, the first one first. The value of a flag is empty. -/
abbrev Values := List (Argument × String)

structure State where
  found : Values := []
  /-- The argument that is not stored yet, and its value if that is known. -/
  pending? : Option (Argument × Option String) := none
  /-- How many positional arguments there were. -/
  places : Nat := 0
  /-- Whether all that follows is positional. -/
  onlyPositional : Bool := false

abbrev Reading (α : Type) := Except Stop α

namespace State

/-- The option that waits for its value. -/
def waiting? (s : State) : Option Argument :=
  match s.pending? with
  | some (a, none) => some a
  | _ => none

def arguments (s : State) : List Argument :=
  s.found.map (·.1)

/-- Store an argument. One that is there already is taken out. -/
def store (c : Command) (a : Argument) (value : String) (s : State) : State × Option Complaint :=
  if s.arguments.contains a then
    ({ s with found := s.found.filter (·.1 ≠ a) }, some { command := c, fault := .repeated a, usage? := c.usage })
  else
    let s := { s with found := s.found ++ [(a, value)] }
    if a.values.isEmpty || a.values.contains value then (s, none)
    else (s, some { command := c, fault := .badValue a value, tip? := (similar value a.values).getLast?.map .value })

/-- Store what is pending. -/
def settle (c : Command) (s : State) : State × Option Complaint :=
  match s.pending? with
  | none => (s, none)
  | some (a, none) => ({ s with pending? := none }, some { command := c, fault := .noValue a })
  | some (a, some value) => store c a value { s with pending? := none }

end State

def orStop : State × Option Complaint → Reading State
  | (s, none) => .ok s
  | (_, some c) => .error (.complaint c)

section

variable (c : Command)

def refuse {α : Type} (fault : Fault) (usage : String) (tip? : Option Tip := none) : Reading α :=
  .error (.complaint { command := c, fault, tip?, usage? := usage })

/-- The general usage if nothing is used. -/
def usageOf (used : List Argument) : String :=
  if used.isEmpty then c.usage else c.usageWith used

/-- The subcommand with an option like this one that is named first in what follows. -/
def elsewhere? (name : String) (rest : List String) : Option (String × String) :=
  let places := c.subcommands.filterMap fun sub => do
    let option ← (similar name (sub.options.map (·.name))).getLast?
    let place ← rest.idxOf? sub.name
    return (place, sub.name, option)
  (places.foldl (fun best? p =>
    match best? with
    | some best => if p.1 < best.1 then some p else some best
    | none => some p) none).map (·.2)

def asValue? (text : String) : Option Tip :=
  if c.positionals.isEmpty then none else some (.asValue text)

/-- What is said of an option that is not known. One that is like it is shown as if it had been used. -/
def unknownOption {α : Type} (s : State) (name : String) (rest : List String) : Reading α :=
  let used := (s.settle c).1.arguments
  let text := "--" ++ name
  match (similar name (c.options.map (·.name))).getLast? with
  | some other =>
    let used := used ++ (c.long? other).toList.filter (!used.contains ·)
    refuse c (.unknown text) (usageOf c used) (some (.argument other))
  | none =>
    match elsewhere? c name rest with
    | some (sub, option) => refuse c (.unknown text) (usageOf c used) (some (.ofSubcommand sub option))
    | none => refuse c (.unknown text) (usageOf c used) (asValue? c text)

/-- Take an option that has no value. -/
def takeFlag (s : State) (a : Argument) (length : Length) : Reading State := do
  let s ← orStop (s.settle c)
  match a.form with
  | .help => .error (.help c length)
  | .version => .error (.version c)
  | _ => orStop (s.store c a "")

def takeOption (s : State) (a : Argument) (value? : Option String) : Reading State := do
  let s ← orStop (s.settle c)
  match value? with
  | some value => orStop (s.store c a value)
  | none => return { s with pending? := some (a, none) }

/-- Take the option that stands behind two hyphens. -/
def takeLong (s : State) (text : List Char) (rest : List String) : Reading State :=
  let name := String.ofList (text.takeWhile (· ≠ '='))
  let value? := ((text.dropWhile (· ≠ '=')).tail?).map String.ofList
  match c.long? name with
  | none => unknownOption c s name rest
  | some a =>
    match a.form, value? with
    | .option _, _ => takeOption c s a value?
    | _, none => takeFlag c s a .long
    | _, some value =>
      let used := s.arguments.filter (!·.isRequired)
      refuse c (.needlessValue a value) (c.usageWith (used ++ [a]))

/-- Take the options whose letters stand behind one hyphen. -/
def takeShort (s : State) : List Char → Reading State
  | [] => .ok s
  | x :: rest =>
    match c.short? x with
    | none =>
      let text := String.ofList ['-', x]
      refuse c (.unknown text) c.usage (asValue? c text)
    | some a =>
      match a.form with
      | .option _ =>
        takeOption c s a <|
          match rest with
          | [] => none
          | '=' :: value => some (String.ofList value)
          | value => some (String.ofList value)
      | _ => do takeShort (← takeFlag c s a .short) rest

/-- What is said of an argument for which there is no place. -/
def noPlace {α : Type} (s : State) (text : String) : Reading α :=
  if s.onlyPositional && (c.subcommand? text).isSome then
    refuse c (.unknown text) c.usage (some (.withoutHyphens text))
  else if c.subcommands.isEmpty then refuse c (.unknown text) c.usage
  else
    match similar text (c.subcommands.map (·.name)) with
    | [] => refuse c (.unknownCommand text) c.usage
    | names => refuse c (.unknownCommand text) c.usage (some (.commands names))

def takePositional (s : State) (text : String) : Reading State :=
  match c.positionals[s.places]? with
  | none => noPlace c s text
  | some a => do
    let s ← orStop (s.settle c)
    return { s with pending? := some (a, some text), places := s.places + 1 }

/-- The values of a command whose arguments have ended. -/
def finish (s : State) (hasSubcommand : Bool) : Reading Values := do
  let s ← orStop (s.settle c)
  let missing := c.arguments.filter fun a => a.isRequired && !s.arguments.contains a
  if !hasSubcommand && s.found.isEmpty && !c.subcommands.isEmpty then .error (.bare c)
  else if missing.isEmpty then return s.found
  else
    refuse c (.missing missing) (c.usageWith (s.arguments.filter (!·.isRequired) ++ missing))

end

/-- The help on a subcommand of a subcommand of … a command. -/
def helpOn (c : Command) : List String → Stop
  | [] => .help c .long
  | name :: names =>
    match c.subcommand? name with
    | some sub => helpOn sub names
    | none => .complaint { command := c, fault := .unknownCommand name, usage? := c.usage }

/-- What an argument is taken for, by its form alone. -/
inductive Shape where
  | hyphens
  | long (text : List Char)
  | short (letters : List Char)
  | plain
  deriving DecidableEq, Repr

def shape (argument : String) : Shape :=
  match argument.toList with
  | ['-', '-'] => .hyphens
  | '-' :: '-' :: text => .long text
  | ['-'] => .plain
  | '-' :: letters => .short letters
  | _ => .plain

def helpCommand : String := "help"

/-- Read arguments: the values of the command and of its subcommands, the innermost last. -/
def readFrom (c : Command) (s : State) : List String → Reading (List (String × Values))
  | [] => do return [(c.name, ← finish c s false)]
  | argument :: rest => do
    if s.onlyPositional then readFrom c (← takePositional c s argument) rest
    else
      match if s.waiting?.isSome then none else c.subcommand? argument with
      | some sub =>
        if sub.name = helpCommand then .error (helpOn c rest)
        else
          let inner ← readFrom sub {} rest
          return (c.name, ← finish c s true) :: inner
      | none =>
        match shape argument, s.waiting? with
        | .hyphens, _ => readFrom c { s with onlyPositional := true } rest
        | .long text, _ => readFrom c (← takeLong c s text rest) rest
        | .short letters, _ => readFrom c (← takeShort c s letters) rest
        | .plain, some a => readFrom c { s with pending? := some (a, some argument) } rest
        | .plain, none => readFrom c (← takePositional c s argument) rest

def read (c : Command) (arguments : List String) : Reading (List (String × Values)) :=
  readFrom c {} arguments

end Frontmark.CommandLine
