/-! Binary floating-point numbers of double precision, as exact integers.

A finite number is a mantissa of at most 53 bits times a power of two that is not below -1074. The mantissa
has 53 bits unless the power is the least, so that no number but zero has two forms. -/

set_option autoImplicit false

namespace Frontmark.Decimal

inductive Double where
  | finite (negative : Bool) (mantissa : Nat) (exponent : Int)
  | infinite (negative : Bool)
  | notANumber
  deriving DecidableEq, Repr

/-- The quotient to the nearest integer; a half goes to the even one. -/
def roundDiv (num den : Nat) : Nat :=
  let q := num / den
  let r := num % den
  if 2 * r < den || (2 * r = den && q % 2 = 0) then q else q + 1

/-- `n` times a power of the base, as a quotient. -/
def scaled (n base : Nat) (power : Int) : Nat × Nat :=
  (n * Nat.pow base power.toNat, Nat.pow base (-power).toNat)

namespace Double

def leastExponent : Int := -1074

def largestExponent : Int := 971

def precision : Nat := 53

/-- The exponent of the greatest power of two that is no more than `num / den`. -/
def magnitude (num den : Nat) : Int :=
  let e : Int := Int.ofNat num.log2 - Int.ofNat den.log2
  let (n, d) := scaled den 2 e
  if n ≤ num * d then e else e - 1

/-- The number nearest to `num / den`; there is none beyond the largest finite number. -/
def nearest? (negative : Bool) (num den : Nat) : Option Double :=
  if num = 0 then some (finite negative 0 leastExponent)
  else
    let e := max (magnitude num den - (precision - 1)) leastExponent
    let (n, d) := scaled num 2 (-e)
    let m := roundDiv n (d * den)
    let (m, e) := if m = 1 <<< precision then (m / 2, e + 1) else (m, e)
    if e ≤ largestExponent then some (finite negative m e) else none

/-- The number nearest to `digits` times a power of ten. Powers far out of range are not computed. -/
def ofDecimal? (negative : Bool) (digits : Nat) (power : Int) : Option Double :=
  let length : Int := (Nat.toDigits 10 digits).length
  if digits = 0 || length + power < -400 then some (finite negative 0 leastExponent)
  else if 400 < length + power then none
  else
    let (num, den) := scaled digits 10 power
    nearest? negative num den

def isZero : Double → Bool
  | finite _ m _ => m = 0
  | _ => false

/-- Equality of keys: the zeros are one number, and so is what is not a number. -/
def same (x y : Double) : Bool :=
  x = y || (x.isZero && y.isZero)

end Double

end Frontmark.Decimal
