import Frontmark.Yaml.Gap

/-! Scalars in quotes. -/

set_option autoImplicit false

namespace Frontmark.Yaml.Quoted

open Frontmark.Text

/-- The character that an escape of a single letter stands for. -/
def short? (c : Char) : Option Char :=
  match c with
  | '0' => some '\x00'
  | 'a' => some '\x07'
  | 'b' => some '\x08'
  | 't' | '\t' => some '\t'
  | 'n' => some '\n'
  | 'v' => some '\x0b'
  | 'f' => some '\x0c'
  | 'r' => some '\r'
  | 'e' => some '\x1b'
  | ' ' => some ' '
  | '"' => some '"'
  | '/' => some '/'
  | '\\' => some '\\'
  | 'N' => some '\u0085'
  | '_' => some '\u00a0'
  | 'L' => some '\u2028'
  | 'P' => some '\u2029'
  | _ => none

/-- The number of digits of an escape by character code. -/
def digits? (c : Char) : Option Nat :=
  match c with
  | 'x' => some 2
  | 'u' => some 4
  | 'U' => some 8
  | _ => none

/-- Read the escape that a backslash starts. -/
def escape (start : Mark) (c : Cursor) : Except Malformed (Char × Cursor) :=
  match c.skip.head? with
  | none => fail .escape start .unknownEscape c
  | some x =>
    match short? x with
    | some y => .ok (y, c.skip.skip)
    | none =>
      match digits? x with
      | none => fail .escape start .unknownEscape c
      | some n =>
        let code := c.skip.skip
        let digits := code.rest.take n
        if digits.length < n || !digits.all isHexDigit then fail .escape start .noHexNumber code
        else
          let value := numeral 16 digits
          if value.isValidChar then .ok (Char.ofNat value, code.skipMany n)
          else fail .escape start .noCharacterCode code

structure Stretch where
  /-- The text so far, last character first. -/
  text : List Char
  /-- Whether an escaped line break ends the stretch. -/
  broken : Bool
  next : Cursor

/-- Read up to the next blank, line break or closing quote. -/
def stretch (quote : Char) (start : Mark) : Nat → (text : List Char) → Cursor → Except Malformed Stretch
  | 0, text, c => .ok ⟨text, false, c⟩
  | fuel + 1, text, c =>
    match c.rest with
    | [] => .ok ⟨text, false, c⟩
    | x :: rest =>
      if isSpaceOrTab x || isBreak x then .ok ⟨text, false, c⟩
      else if quote = '\'' && x = quote && rest.head? = some quote then
        stretch quote start fuel (quote :: text) c.skip.skip
      else if x = quote then .ok ⟨text, false, c⟩
      else if quote = '"' && x = '\\' then
        if rest.head?.any isBreak then .ok ⟨text, true, c.skip.skipBreak⟩
        else do
          let (y, next) ← escape start c
          stretch quote start fuel (y :: text) next
      else stretch quote start fuel (x :: text) c.skip

def readText (quote : Char) (start : Mark) : Nat → (text : List Char) → Cursor → Except Malformed (List Char × Cursor)
  | 0, _, c => fail .quotedScalar start .endOfText c
  | fuel + 1, text, c => do
    if c.isDocumentLine then fail .quotedScalar start .documentLine c
    else if c.rest.isEmpty then fail .quotedScalar start .endOfText c
    else
      let s ← stretch quote start (c.rest.length + 1) text c
      if s.next.head? = some quote then return (s.text.reverse, s.next.skip)
      else
        let (gap, after) ← Gap.read start 0 s.next.rest.length { broken := s.broken } s.next
        readText quote start fuel (gap.text.reverse ++ s.text) after

/-- Read a scalar from its opening quote on. -/
def read (quote : Char) (c : Cursor) : Except Malformed (List Char × Cursor) :=
  readText quote c.mark (c.rest.length + 1) [] c.skip

end Frontmark.Yaml.Quoted
