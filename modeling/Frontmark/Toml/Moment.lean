import Frontmark.Toml.Scan
import Frontmark.Toml.Value

/-! TOML dates and times. -/

set_option autoImplicit false

namespace Frontmark.Toml

open Frontmark.Text

/-- A number of two digits that lies in a range. -/
def twoDigits (least most : Nat) : Scan Nat := do
  let start ← get
  match start with
  | a :: b :: rest =>
    let n := numeral 10 [a, b]
    if !(isDigit a && isDigit b) then Scan.fault
    else if least ≤ n && n ≤ most then do
      set rest
      return n
    else Scan.refuse start .outOfRange
  | _ => Scan.fault

def padded (width n : Nat) : String :=
  let text := toString n
  String.ofList (List.replicate (width - text.length) '0') ++ text

def isLeapYear (year : Nat) : Bool :=
  year % 4 = 0 && (year % 100 ≠ 0 || year % 400 = 0)

def daysIn (year month : Nat) : Nat :=
  if month = 2 then if isLeapYear year then 29 else 28
  else if month = 4 || month = 6 || month = 9 || month = 11 then 30
  else 31

def year : Scan Nat := do
  let rest ← get
  let text := rest.take 4
  if text.length = 4 && text.all isDigit then do
    set (rest.drop 4)
    return numeral 10 text
  else Scan.fault

/-- Four digits and a hyphen make it certain that a date is meant. -/
def date : Scan String := do
  let y ← year
  Scan.exactly ['-']
  Scan.firmly do
    let m ← twoDigits 1 12
    Scan.exactly ['-']
    let start ← get
    let d ← twoDigits 1 31
    if daysIn y m < d then Scan.refuse start .outOfRange
    else return padded 4 y ++ "-" ++ padded 2 m ++ "-" ++ padded 2 d

/-- The digits of a second after the point that count. -/
def longestFraction : Nat := 9

def dropZerosEnd (digits : List Char) : List Char :=
  (digits.reverse.dropWhile (· = '0')).reverse

def secondFraction : Scan String := do
  Scan.exactly ['.']
  let c ← Scan.one isDigit
  let more ← Scan.takeWhile isDigit
  let kept := dropZerosEnd ((c :: more).take longestFraction)
  return if kept.isEmpty then "" else "." ++ String.ofList kept

/-- Two digits and a colon make it certain that a time is meant. -/
def clock : Scan String := do
  let h ← twoDigits 0 23
  Scan.exactly [':']
  Scan.firmly do
    let m ← twoDigits 0 59
    Scan.exactly [':']
    let s ← twoDigits 0 60
    let fraction ← Scan.optional secondFraction
    return padded 2 h ++ ":" ++ padded 2 m ++ ":" ++ padded 2 s ++ fraction.getD ""

def offset : Scan String :=
  Scan.named .timeOffset do
    let c ← Scan.one fun c => c = 'Z' || c = 'z' || c = '+' || c = '-'
    if c = 'Z' || c = 'z' then return "Z"
    else
      Scan.firmly do
        let h ← twoDigits 0 23
        Scan.exactly [':']
        let m ← twoDigits 0 59
        let sign := if c = '-' && h + m ≠ 0 then "-" else "+"
        return sign ++ padded 2 h ++ ":" ++ padded 2 m

def timeOfDay : Scan String := do
  let _ ← Scan.one fun c => c = 'T' || c = 't' || c = ' '
  let time ← clock
  let o ← Scan.optional offset
  return "T" ++ time ++ o.getD ""

def dateTime : Scan String := do
  let day ← Scan.optional <| Scan.named .dateTime do
    let d ← date
    let t ← Scan.optional timeOfDay
    return d ++ t.getD ""
  match day with
  | some text => return text
  | none => Scan.named .time clock

end Frontmark.Toml
