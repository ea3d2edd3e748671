import Frontmark.Decimal.Double

/-! The fewest decimal digits that identify a double.

A decimal identifies a double if it is nearer to it than to any other, or half way to a neighbour whose
mantissa is odd. Of the decimals with the fewest digits the nearest is taken. -/

set_option autoImplicit false

namespace Frontmark.Decimal

/-- `digits` times a power of ten. -/
structure Decimal where
  digits : Nat
  power : Int
  deriving DecidableEq, Repr

/-- Without zeros at the end of the digits. -/
def Decimal.strip : Nat → Decimal → Decimal
  | 0, d => d
  | fuel + 1, d => if d.digits ≠ 0 && d.digits % 10 = 0 then strip fuel ⟨d.digits / 10, d.power + 1⟩ else d

/-- The quarters of a mantissa between which all that rounds to it lies. -/
def bounds (mantissa : Nat) (exponent : Int) : Nat × Nat :=
  let lower := if mantissa = 1 <<< (Double.precision - 1) && exponent ≠ Double.leastExponent then 1 else 2
  (4 * mantissa - lower, 4 * mantissa + 2)

/-- The decimal on the grid of a power of ten that identifies the number, if there is one. -/
def onGrid? (m : Nat) (exponent power : Int) : Option Nat :=
  let (binary, binaryDen) := scaled 1 2 (exponent - 2)
  let (decimal, decimalDen) := scaled 1 10 power
  let unit := binary * decimalDen
  let step := decimal * binaryDen
  let (lower, upper) := bounds m exponent
  let inside (c : Nat) : Bool :=
    if m % 2 = 0 then lower * unit ≤ c * step && c * step ≤ upper * unit
    else lower * unit < c * step && c * step < upper * unit
  let value := 4 * m * unit
  let below := value / step
  let above := below + 1
  match inside below && below ≠ 0, inside above with
  | true, true => some (if 2 * (value % step) ≤ step then below else above)
  | true, false => some below
  | false, true => some above
  | false, false => none

def search (mantissa : Nat) (exponent : Int) : Nat → (power : Int) → Decimal
  | 0, power => ⟨0, power⟩
  | fuel + 1, power =>
    match onGrid? mantissa exponent power with
    | some digits => (Decimal.strip 2 ⟨digits, power⟩)
    | none => search mantissa exponent fuel (power - 1)

/-- The shortest decimal of a positive number. The search starts above its leading digit. -/
def shortest (mantissa : Nat) (exponent : Int) : Decimal :=
  let magnitude := Int.ofNat mantissa.log2 + exponent
  search mantissa exponent 24 (magnitude * 30103 / 100000 + 2)

end Frontmark.Decimal
