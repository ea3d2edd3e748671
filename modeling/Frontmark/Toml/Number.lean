import Frontmark.Decimal.Numeral
import Frontmark.Toml.Scan
import Frontmark.Toml.Value

/-! TOML numbers. -/

set_option autoImplicit false

namespace Frontmark.Toml

open Frontmark.Text
open Frontmark.Decimal (Double)

def isSign (c : Char) : Bool :=
  c = '+' || c = '-'

/-- Digits, each of which can have an underscore before it. `text` holds those before, the last one first. -/
def moreDigits (isDigit : Char → Bool) : Nat → (text : List Char) → Scan (List Char)
  | 0, text => return text.reverse
  | fuel + 1, text => do
    match ← Scan.head? with
    | none => return text.reverse
    | some c =>
      if isDigit c then do
        Scan.skip
        moreDigits isDigit fuel (c :: text)
      else if c = '_' then do
        Scan.skip
        let d ← Scan.firmly (Scan.expecting [.digit] (Scan.one isDigit))
        moreDigits isDigit fuel (d :: text)
      else return text.reverse

def digits (isDigit : Char → Bool) : Scan (List Char) := do
  let c ← Scan.one isDigit
  moreDigits isDigit (← get).length [c]

/-- A decimal integer, which has no zero in front of other digits. -/
def decimalText : Scan (List Char) :=
  Scan.named .integer do
    let sign ← Scan.optional (Scan.one isSign)
    let whole ← if (← Scan.head?) = some '0' then do Scan.skip; pure ['0'] else digits isDigit
    return sign.toList ++ whole

def smallest : Int := -(1 <<< 63)

def largest : Int := (1 <<< 63) - 1

def limited (start : List Char) (n : Int) : Scan Value :=
  if largest < n then Scan.refuse start .tooLarge
  else if n < smallest then Scan.refuse start .tooSmall
  else return .integer n

def signed (text : List Char) : Int :=
  match text with
  | '-' :: digits => -(numeral 10 digits : Int)
  | '+' :: digits => numeral 10 digits
  | digits => numeral 10 digits

/-- An integer of another base, from the two characters on that announce it. -/
def basedInteger (base : Nat) (isDigit : Char → Bool) (construct : Construct) : Scan Value :=
  Scan.firmly do
    let start ← get
    let text ← Scan.named construct do
      modify (List.drop 2)
      digits isDigit
    limited start (numeral base text)

def integer : Scan Value := do
  let start ← get
  if ← Scan.isAt "0x".toList then basedInteger 16 isHexDigit .hexInteger
  else if ← Scan.isAt "0o".toList then basedInteger 8 (fun c => '0' ≤ c && c ≤ '7') .octalInteger
  else if ← Scan.isAt "0b".toList then basedInteger 2 (fun c => c = '0' || c = '1') .binaryInteger
  else
    let text ← decimalText
    Scan.firmly (limited start (signed text))

def exponent : Scan (List Char) := do
  let e ← Scan.one fun c => c = 'e' || c = 'E'
  let sign ← Scan.optional (Scan.one isSign)
  let text ← Scan.firmly (digits isDigit)
  return e :: sign.toList ++ text

/-- A number with a fraction or an exponent. -/
def fractional : Scan Value := do
  let start ← get
  let whole ← decimalText
  let rest ←
    match ← Scan.optional exponent with
    | some text => pure text
    | none => do
      let point ← Scan.one (· = '.')
      let fraction ← Scan.firmly (Scan.expecting [.digit] (digits isDigit))
      let power ← Scan.optional exponent
      pure (point :: fraction ++ power.getD [])
  match Double.parse? (whole ++ rest) with
  | some x => return .float x
  | none =>
    -- Only the negative infinity passes for a number that is too large.
    if whole.head? = some '-' then return .float (.infinite true)
    else fun _ => .error { rest := start, final := true }

def special : Scan Value := do
  let sign ← Scan.optional (Scan.one isSign)
  if ← Scan.isAt "inf".toList then do
    modify (List.drop 3)
    return .float (.infinite (sign = some '-'))
  else do
    Scan.exactly "nan".toList
    return .float .notANumber

def float : Scan Value :=
  Scan.named .float do
    match ← Scan.optional fractional with
    | some v => return v
    | none => special

end Frontmark.Toml
