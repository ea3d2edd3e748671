/-! Text without control characters and control sequences, as it is shown where nothing obeys them.

A sequence starts with the escape character, and its form tells where it ends. Tabs, line breaks and form
feeds are no controls here. -/

set_option autoImplicit false

namespace Frontmark.Text.ControlSequence

/-- The parts of a sequence with parameters. -/
inductive Part where
  | start
  | parameters
  | intermediates
  | malformed
  deriving DecidableEq, Repr

/-- What is being read. -/
inductive Phase where
  | plain
  /-- The escape character has been read. -/
  | escape
  | escapeIntermediates
  | control (part : Part)
  /-- A string for a device, which follows its parameters. -/
  | device (part : Part)
  | string
  /-- A string that a bell ends. -/
  | title
  deriving DecidableEq, Repr

def bell : Char := '\x07'
def escape : Char := '\x1b'

def isPrintable (c : Char) : Bool :=
  ' ' ≤ c && c ≤ '~'

def isBlank (c : Char) : Bool :=
  c = '\t' || c = '\n' || c = '\x0c' || c = '\r'

def isAscii (c : Char) : Bool :=
  c.toNat < 0x80

/-- Whether the character ends what precedes it wherever it stands. -/
def isCancel (c : Char) : Bool :=
  c = '\x18' || c = '\x1a'

/-- Whether an octet of the character is the one that ends a string. -/
def endsString (c : Char) : Bool :=
  (String.utf8EncodeChar c).contains 0x9C

/-- The part that a character of a sequence belongs to; no part if the character is the last one. -/
def Part.next? (p : Part) (c : Char) : Option Part :=
  if '@' ≤ c && c ≤ '~' then none
  else if ' ' ≤ c && c ≤ '/' then some (if p = .malformed then p else .intermediates)
  else if '0' ≤ c && c ≤ '?' then
    some <|
      match p with
      | .start => .parameters
      | .parameters => if c ≤ ';' then .parameters else .malformed
      | _ => .malformed
  else some p

/-- What a character after the escape character starts. -/
def afterEscape (c : Char) : Phase :=
  if ' ' ≤ c && c ≤ '/' then .escapeIntermediates
  else if c = '[' then .control .start
  else if c = ']' then .title
  else if c = 'P' then .device .start
  else if c = 'X' || c = '^' || c = '_' then .string
  else .plain

/-- What follows a printable character. -/
def Phase.afterPrintable : Phase → Char → Phase
  | .escape, c => afterEscape c
  | .escapeIntermediates, c => if c ≤ '/' then .escapeIntermediates else .plain
  | .control part, c => (part.next? c).elim .plain .control
  | .device part, c =>
    match part.next? c with
    | none | some .malformed => .string
    | some part => .device part
  | phase, _ => phase

/-- Whether blanks are shown although a sequence has not ended. -/
def Phase.showsBlanks : Phase → Bool
  | .plain | .escape | .escapeIntermediates | .control _ => true
  | .device _ | .string | .title => false

structure State where
  phase : Phase := .plain
  /-- A blank has been shown. What follows is plain up to the next control or the next character beyond ASCII. -/
  isOpen : Bool := false
  deriving DecidableEq, Repr

namespace State

def showsAll (s : State) : Bool :=
  s.isOpen || s.phase = .plain

def shows (s : State) (c : Char) : Bool :=
  if isBlank c then s.isOpen || s.phase.showsBlanks
  else s.showsAll && (isPrintable c || !isAscii c)

def next (s : State) (c : Char) : State :=
  if c = escape then { phase := .escape }
  else if isCancel c then {}
  else if isPrintable c then if s.showsAll then s else { phase := s.phase.afterPrintable c }
  else if isAscii c then
    if s.phase = .title && c = bell then {} else { s with isOpen := isBlank c && s.shows c }
  else if s.showsAll || (s.phase = .string && endsString c) then {}
  else s

end State

/-- The text that is left without controls. -/
def strip (text : String) : String :=
  (text.foldl (fun (s, shown) c => (s.next c, if s.shows c then shown.push c else shown)) (({} : State), "")).2

end Frontmark.Text.ControlSequence
