import Frontmark.Decimal.Shortest

/-! Writing doubles as text. -/

set_option autoImplicit false

namespace Frontmark.Decimal

def zeros (n : Nat) : String :=
  String.ofList (List.replicate n '0')

/-- The decimal written out, with a point and at least one digit on either side. -/
def Decimal.positional (d : Decimal) : String :=
  let digits := Nat.toDigits 10 d.digits
  let point : Int := digits.length + d.power
  if 0 ≤ d.power then String.ofList digits ++ zeros d.power.toNat ++ ".0"
  else if 0 < point then
    String.ofList (digits.take point.toNat) ++ "." ++ String.ofList (digits.drop point.toNat)
  else "0." ++ zeros (-point).toNat ++ String.ofList digits

/-- One digit before the point, if there are more, and an exponent. -/
def Decimal.scientific (plus : Bool) (d : Decimal) : String :=
  let digits := Nat.toDigits 10 d.digits
  let exponent : Int := digits.length + d.power - 1
  let point := if digits.length = 1 then "" else "."
  let sign := if exponent < 0 then "-" else if plus then "+" else ""
  String.ofList (digits.take 1) ++ point ++ String.ofList (digits.drop 1) ++ "e" ++ sign ++ toString exponent.natAbs

/-- How numbers are written. -/
structure Form where
  /-- The places that the point can have, counted from before the first digit, without an exponent. -/
  places : Option (Int × Int)
  /-- Whether a positive exponent has a sign. -/
  plus : Bool
  infinite : String
  notANumber : String

namespace Form

/-- All digits, whatever their number. -/
def plain : Form := ⟨none, false, "inf", "NaN"⟩

/-- As keys are shown. -/
def key : Form := ⟨some (-4, 16), false, ".inf", ".nan"⟩

/-- As numbers are written where all numbers are finite. -/
def data : Form := ⟨some (-4, 16), true, "null", "null"⟩

def decimal (f : Form) (d : Decimal) : String :=
  let point : Int := (Nat.toDigits 10 d.digits).length + d.power
  match f.places with
  | none => d.positional
  | some (least, most) => if least ≤ point && point ≤ most then d.positional else d.scientific f.plus

def write (f : Form) : Double → String
  | .finite negative m e =>
    (if negative then "-" else "") ++ if m = 0 then "0.0" else f.decimal (shortest m e)
  | .infinite negative => (if negative then "-" else "") ++ f.infinite
  | .notANumber => f.notANumber

end Form

end Frontmark.Decimal
