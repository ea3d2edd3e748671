/-! Classes of ASCII characters. The grammars that use them name ASCII characters only. -/

set_option autoImplicit false

namespace Frontmark.Text

def isDigit (c : Char) : Bool :=
  '0' ≤ c && c ≤ '9'

def isHexDigit (c : Char) : Bool :=
  isDigit c || ('a' ≤ c && c ≤ 'f') || ('A' ≤ c && c ≤ 'F')

def isCapital (c : Char) : Bool :=
  'A' ≤ c && c ≤ 'Z'

def isLetter (c : Char) : Bool :=
  ('a' ≤ c && c ≤ 'z') || isCapital c

def isAlphanumeric (c : Char) : Bool :=
  isLetter c || isDigit c

def isSpaceOrTab (c : Char) : Bool :=
  c = ' ' || c = '\t'

def isSpace (c : Char) : Bool :=
  c = ' ' || c = '\t' || c = '\n' || c = '\r'

/-- Spaces and the controls from the tab to the carriage return, which separate the parts of a construct. -/
def isGap (c : Char) : Bool :=
  c = ' ' || ('\t' ≤ c && c ≤ '\r')

def isControl (c : Char) : Bool :=
  c.toNat < 32 || c.toNat = 127

/-- The ASCII characters that are neither spaces, controls, letters nor digits. -/
def isMark (c : Char) : Bool :=
  ' ' < c && c.toNat < 127 && !isAlphanumeric c

def lower (c : Char) : Char :=
  if isCapital c then Char.ofNat (c.toNat + 32) else c

def digitValue (c : Char) : Nat :=
  if isDigit c then c.toNat - '0'.toNat else (lower c).toNat - 'a'.toNat + 10

def numeral (base : Nat) (digits : List Char) : Nat :=
  digits.foldl (fun n c => n * base + digitValue c) 0

/-- Whether the text begins with `start`; case is ignored, `start` being in lower case. -/
def startsWithWord : (start text : List Char) → Bool
  | [], _ => true
  | _ :: _, [] => false
  | s :: start, c :: text => lower c = s && startsWithWord start text

def dropGaps (text : List Char) : List Char :=
  text.dropWhile isGap

def dropSpaces (text : List Char) : List Char :=
  text.dropWhile isSpace

/-- The text without ASCII spaces at its end. -/
def dropSpacesEnd (text : List Char) : List Char :=
  (text.reverse.dropWhile isSpace).reverse

/-- The text without ASCII spaces at its two ends. -/
def strip (text : List Char) : List Char :=
  dropSpacesEnd (dropSpaces text)

end Frontmark.Text
