import Frontmark.Decimal.Double
import Frontmark.Text.Ascii

/-! Reading doubles from text. -/

set_option autoImplicit false

namespace Frontmark.Decimal

open Frontmark.Text

/-- A sign in front of a text, and the text after it. -/
def cutSign : List Char → Option Bool × List Char
  | '-' :: rest => (some true, rest)
  | '+' :: rest => (some false, rest)
  | text => (none, text)

/-- Digits, a letter e, an optional sign and digits: the power of ten after the mantissa of a number. -/
def exponent? : List Char → Option Int
  | [] => some 0
  | c :: rest =>
    if c = 'e' || c = 'E' then
      let (negative, digits) := cutSign rest
      if digits.isEmpty || !digits.all isDigit then none
      else
        let n : Int := numeral 10 digits
        some (if negative = some true then -n else n)
    else none

/-- The finite number that a decimal text stands for: digits with at most one point among them, and perhaps
an exponent. -/
def Double.parse? (text : List Char) : Option Double :=
  let (negative, rest) := cutSign text
  let whole := rest.takeWhile isDigit
  let rest := rest.dropWhile isDigit
  let (fraction, rest) :=
    match rest with
    | '.' :: rest => (rest.takeWhile isDigit, rest.dropWhile isDigit)
    | rest => ([], rest)
  if whole.isEmpty && fraction.isEmpty then none
  else
    (exponent? rest).bind fun power =>
      Double.ofDecimal? (negative = some true) (numeral 10 (whole ++ fraction)) (power - fraction.length)

end Frontmark.Decimal
