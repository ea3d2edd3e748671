import Frontmark.Toml.Moment

/-! Dates and times in strings.

They are written as they are without quotes, but a fault is told in other words: the part that is wrong, if it
is known, and what it should be. Widths and ranges of numbers are looked at when a part is complete. -/

set_option autoImplicit false

namespace Frontmark.Toml

open Frontmark.Text

inductive MomentPart where
  | date
  | dateTime
  | time
  | offset
  deriving DecidableEq, Repr

def MomentPart.name : MomentPart → String
  | date => "date"
  | dateTime => "date-time"
  | time => "time"
  | offset => "offset"

structure MomentFault where
  part? : Option MomentPart := none
  expected? : Option String := none
  deriving DecidableEq, Repr

def MomentFault.message (f : MomentFault) : String :=
  "invalid " ++ f.part?.elim "datetime" MomentPart.name ++ f.expected?.elim "" (", expected " ++ ·)

namespace MomentText

abbrev Reading := StateT (List Char) (Except MomentFault)

def refuse {α : Type} (part? : Option MomentPart) (expected : String) : Reading α :=
  throw { part?, expected? := some expected }

/-- All digits up to something else. -/
def digits (part? : Option MomentPart) (expected : String) : Reading (List Char) := do
  let text := (← get).takeWhile isDigit
  if text.isEmpty then refuse part? expected
  else do
    modify (List.drop text.length)
    return text

def sign (c : Char) (part : MomentPart) (expected : String) : Reading Unit := do
  if (← get).head? = some c then modify List.tail else refuse (some part) expected

def demand (condition : Bool) (part : MomentPart) (expected : String) : Reading Unit :=
  if condition then return () else refuse (some part) expected

/-- The end of a date whose year and first hyphen are passed. -/
def dateFrom (year : List Char) : Reading String := do
  let month ← digits (some .date) "month"
  sign '-' .date "\x60-\x60 (MM-DD)"
  let day ← digits (some .date) "day"
  demand (year.length = 4) .date "a four-digit year (YYYY)"
  demand (month.length = 2) .date "a two-digit month (MM)"
  demand (day.length = 2) .date "a two-digit day (DD)"
  let (y, m, d) := (numeral 10 year, numeral 10 month, numeral 10 day)
  demand (1 ≤ m && m ≤ 12) .date "month between 01 and 12"
  demand (1 ≤ d && d ≤ daysIn y m) .date ("day between 01 and " ++ toString (daysIn y m))
  return padded 4 y ++ "-" ++ padded 2 m ++ "-" ++ padded 2 d

def fraction : Reading String := do
  if (← get).head? = some '.' then
    modify List.tail
    let kept := dropZerosEnd ((← digits (some .time) "nanosecond").take longestFraction)
    return if kept.isEmpty then "" else "." ++ String.ofList kept
  else return ""

def clock : Reading String := do
  let hour ← digits (some .time) "hour"
  sign ':' .time "\x60:\x60 (HH:MM)"
  let minute ← digits (some .time) "minute"
  sign ':' .time "\x60:\x60 (MM:SS)"
  let second ← digits (some .time) "second"
  let fraction ← fraction
  demand (hour.length = 2) .time "a two-digit hour (HH)"
  demand (minute.length = 2) .time "a two-digit minute (MM)"
  demand (second.length = 2) .time "a two-digit second (SS)"
  let (h, m, s) := (numeral 10 hour, numeral 10 minute, numeral 10 second)
  demand (h ≤ 23) .time "hour between 00 and 23"
  demand (m ≤ 59) .time "minute between 00 and 59"
  demand (s ≤ 60) .time "second between 00 and 60"
  return padded 2 h ++ ":" ++ padded 2 m ++ ":" ++ padded 2 s ++ fraction

/-- A difference in time, its sign being passed. There is no negative difference of zero. -/
def difference (negative : Bool) : Reading String := do
  let hours ← digits (some .offset) "hour"
  sign ':' .offset "\x60:\x60 (HH:MM)"
  let minutes ← digits (some .offset) "minute"
  demand (hours.length = 2) .offset "a two-digit hour (HH)"
  demand (minutes.length = 2) .offset "a two-digit minute (MM)"
  let (h, m) := (numeral 10 hours, numeral 10 minutes)
  demand (h ≤ 23) .offset "hours between 00 and 23"
  demand (m ≤ 59) .offset "minutes between 00 and 59"
  return (if negative && h + m ≠ 0 then "-" else "+") ++ padded 2 h ++ ":" ++ padded 2 m

def offset : Reading String := do
  match ← get with
  | [] => return ""
  | c :: rest =>
    set rest
    if c = 'Z' || c = 'z' then return "Z"
    else if c = '+' || c = '-' then difference (c = '-')
    else refuse (some .offset) "\x60Z\x60, +OFFSET, -OFFSET"

/-- What follows a date: nothing, or a time. -/
def timeAfter : Reading String := do
  match ← get with
  | [] => return ""
  | c :: rest =>
    set rest
    if c = 'T' || c = 't' || c = ' ' then
      let time ← clock
      return "T" ++ time ++ (← offset)
    else refuse (some .dateTime) "\x60T\x60 between date and time"

/-- A number in front is a year if a hyphen follows, and an hour if a colon does. -/
def moment : Reading String := do
  let start ← get
  let first ← digits none "year or hour"
  match ← get with
  | '-' :: rest =>
    set rest
    let day ← dateFrom first
    return day ++ (← timeAfter)
  | ':' :: _ =>
    set start
    clock
  | _ => refuse none "\x60-\x60 (YYYY-MM) or \x60:\x60 (HH:MM)"

/-- The canonical form of the date or time that a string consists of. -/
def read (text : String) : Except MomentFault String := do
  let (m, rest) ← moment.run text.toList
  if rest.isEmpty then return m else throw {}

end MomentText

end Frontmark.Toml
