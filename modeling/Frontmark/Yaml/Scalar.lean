import Frontmark.Decimal.Numeral
import Frontmark.Yaml.Value

/-! What the text of a scalar stands for. -/

set_option autoImplicit false

namespace Frontmark.Yaml

open Frontmark.Text
open Frontmark.Decimal (Double cutSign)

/-- The integers of up to 64 bits are values. Wider ones are recognised but are no values. -/
inductive IntegerText where
  | fits (n : Int)
  | wide (n : Int)
  deriving DecidableEq, Repr

def isNullText (text : List Char) : Bool :=
  text = "null".toList || text = "Null".toList || text = "NULL".toList || text = "~".toList

def bool? (text : List Char) : Option Bool :=
  if text = "true".toList || text = "True".toList || text = "TRUE".toList then some true
  else if text = "false".toList || text = "False".toList || text = "FALSE".toList then some false
  else none

/-- Digits that begin with a zero are no number, except the zero alone. -/
def hasLeadingZero (text : List Char) : Bool :=
  match (cutSign text).2 with
  | '0' :: c :: rest => (c :: rest).all isDigit
  | _ => false

def digits? (base : Nat) (isDigit : Char → Bool) (text : List Char) : Option Nat :=
  if text.isEmpty || !text.all isDigit then none else some (numeral base text)

def isOctal (c : Char) : Bool :=
  '0' ≤ c && c ≤ '7'

def isBinary (c : Char) : Bool :=
  c = '0' || c = '1'

/-- The digits of an integer, after its sign: those of other bases than ten are announced. -/
def magnitude? : List Char → Option Nat
  | '0' :: 'x' :: rest => digits? 16 isHexDigit rest
  | '0' :: 'o' :: rest => digits? 8 isOctal rest
  | '0' :: 'b' :: rest => digits? 2 isBinary rest
  | text => if hasLeadingZero text then none else digits? 10 isDigit text

def integer? (text : List Char) : Option IntegerText :=
  match cutSign text with
  | (some true, rest) =>
    (magnitude? rest).bind fun n =>
      if n ≤ 1 <<< 63 then some (.fits (-n)) else if n ≤ 1 <<< 127 then some (.wide (-n)) else none
  | (_, rest) =>
    (magnitude? rest).bind fun n =>
      if n < 1 <<< 64 then some (.fits n) else if n < 1 <<< 128 then some (.wide n) else none

def isInfinityText (text : List Char) : Bool :=
  text = ".inf".toList || text = ".Inf".toList || text = ".INF".toList

def isNotANumberText (text : List Char) : Bool :=
  text = ".nan".toList || text = ".NaN".toList || text = ".NAN".toList

def real? (text : List Char) : Option Double :=
  match text with
  | '+' :: rest =>
    if (cutSign rest).1.isSome then none
    else if isInfinityText rest then some (.infinite false)
    else Double.parse? rest
  | _ =>
    let (negative, rest) := cutSign text
    if isInfinityText rest then some (.infinite (negative = some true))
    else if isNotANumberText text then some .notANumber
    else Double.parse? text

/-- What is expected of a scalar with a tag of the standard. -/
inductive CoreTag where
  | bool
  | int
  | float
  | null
  deriving DecidableEq, Repr

def CoreTag.ofText? (tag : String) : Option CoreTag :=
  if tag = "tag:yaml.org,2002:bool" then some bool
  else if tag = "tag:yaml.org,2002:int" then some int
  else if tag = "tag:yaml.org,2002:float" then some float
  else if tag = "tag:yaml.org,2002:null" then some null
  else none

def CoreTag.text : CoreTag → String
  | bool => "a boolean"
  | int => "an integer"
  | float => "a float"
  | null => "null"

/-- What is wrong with a single value. -/
inductive Fault where
  | wideInteger (n : Int)
  | unfit (text : String) (expected : CoreTag)
  | repeatedKey (key : Value)

def IntegerText.value : IntegerText → Except Fault Value
  | fits n => .ok (.integer n)
  | wide n => .error (.wideInteger n)

/-- The value of a scalar that has neither quotes nor a tag. -/
def plainValue (text : String) : Except Fault Value :=
  let chars := text.toList
  if chars.isEmpty || isNullText chars then .ok .null
  else
    match bool? chars, integer? chars with
    | some b, _ => .ok (.bool b)
    | none, some n => n.value
    | none, none =>
      match if hasLeadingZero chars then none else real? chars with
      | some x => .ok (.real x)
      | none => .ok (.text text)

/-- The value of a scalar with a tag of the standard. -/
def coreValue (tag : CoreTag) (text : String) : Except Fault Value :=
  let chars := text.toList
  match tag with
  | .bool => (bool? chars).elim (.error (.unfit text tag)) (.ok <| .bool ·)
  | .int => (integer? chars).elim (.error (.unfit text tag)) IntegerText.value
  | .float => (real? chars).elim (.error (.unfit text tag)) (.ok <| .real ·)
  | .null => if isNullText chars then .ok .null else .error (.unfit text tag)

end Frontmark.Yaml
