import Frontmark.Yaml.Gap
import Frontmark.Yaml.Token

/-! Tags, anchors and the directives at the head of a document. -/

set_option autoImplicit false

namespace Frontmark.Yaml

open Frontmark.Text

/-- The characters of a tag; between angle brackets there are three more. -/
def isTagChar (bracketed : Bool) (c : Char) : Bool :=
  isNameChar c || ";/?:@&=+$.%!~*'()".toList.contains c || (bracketed && (c = ',' || c = '[' || c = ']'))

/-- The number of octets of a character that begins with this one. -/
def octetCount? (octet : Nat) : Option Nat :=
  if octet < 0x80 then some 1
  else if octet < 0xC0 then none
  else if octet < 0xE0 then some 2
  else if octet < 0xF0 then some 3
  else if octet < 0xF8 then some 4
  else none

/-- What is being read while a tag is read. -/
structure TagPlace where
  construct : Construct
  start : Mark

def readOctet (p : TagPlace) (c : Cursor) : Except Malformed Nat :=
  match c.rest with
  | '%' :: x :: y :: _ =>
    if isHexDigit x && isHexDigit y then .ok (numeral 16 [x, y]) else fail p.construct p.start .noOctet c
  | _ => fail p.construct p.start .noOctet c

/-- Read the octets of a character after its first one. Whether they make a character is not looked at. -/
def readOctets (p : TagPlace) : Nat → (octets : List UInt8) → Cursor → Except Malformed (List UInt8 × Cursor)
  | 0, octets, c => .ok (octets, c)
  | n + 1, octets, c => do
    let octet ← readOctet p c
    if octet / 0x40 = 2 then readOctets p n (octets ++ [octet.toUInt8]) (c.skipMany 3)
    else fail p.construct p.start .wrongTrailingOctet c

def readEscaped (p : TagPlace) (c : Cursor) : Except Malformed (List UInt8 × Cursor) := do
  let octet ← readOctet p c
  match octetCount? octet with
  | none => fail p.construct p.start .wrongLeadingOctet c
  | some count => readOctets p (count - 1) [octet.toUInt8] (c.skipMany 3)

/-- Read the characters of a tag as octets; `octets` are those so far. -/
def readTagChars (p : TagPlace) (bracketed : Bool) :
    Nat → (octets : List UInt8) → Cursor → Except Malformed (List UInt8 × Cursor)
  | 0, octets, c => .ok (octets, c)
  | fuel + 1, octets, c =>
    match c.rest with
    | [] => .ok (octets, c)
    | x :: _ =>
      if x = '%' then do
        let (more, next) ← readEscaped p c
        readTagChars p bracketed fuel (octets ++ more) next
      else if isTagChar bracketed x then readTagChars p bracketed fuel (octets ++ Utf8.encode [x]) c.skip
      else .ok (octets, c)

/-- Read the text of a tag. `head` is what has been read of it already; there has to be some text. The text
ends at a zero octet, although reading goes on. -/
def readTagText (p : TagPlace) (bracketed : Bool) (head : List Char) (c : Cursor) :
    Except Malformed (List UInt8 × Cursor) := do
  let (octets, next) ← readTagChars p bracketed c.rest.length [] c
  if head.isEmpty && octets.isEmpty then fail p.construct p.start .noTagText next
  else return ((Utf8.encode (head.drop 1) ++ octets).takeWhile (· ≠ 0), next)

/-- Read an exclamation mark, a name and, if there is one, the exclamation mark after it. -/
def readHandle (c : Cursor) : List Char × Cursor :=
  let (name, next) := c.skip.takeWhile isNameChar
  if next.head? = some '!' then ('!' :: name ++ ['!'], next.skip) else ('!' :: name, next)

def readTag (c : Cursor) : Except Malformed (Token × Cursor) := do
  let p : TagPlace := ⟨.tagText, c.mark⟩
  let (symbol, next) ←
    if c.rest.drop 1 |>.head? |>.any (· = '<') then do
      let (suffix, next) ← readTagText p true [] (c.skipMany 2)
      if next.head? = some '>' then pure (Symbol.tag [] suffix, next.skip)
      else fail .tag c.mark .noTagEnd next
    else
      let (handle, next) := readHandle c
      if handle.length > 1 && handle.getLast? = some '!' then do
        let (suffix, next) ← readTagText p false [] next
        pure (Symbol.tag handle suffix, next)
      else do
        let (suffix, next) ← readTagText p false handle next
        pure (if suffix.isEmpty then Symbol.tag [] (Utf8.encode ['!']) else Symbol.tag ['!'] suffix, next)
  return (⟨c.mark, symbol⟩, next)

/-- Read a tag, which has to stand by itself. -/
def readTagAlone (inFlow : Bool) (c : Cursor) : Except Malformed (Token × Cursor) := do
  let (token, next) ← readTag c
  if isSeparated next.rest || (inFlow && next.head? = some ',') then return (token, next)
  else fail .tag c.mark .noBlankOrBreak next

/-- Read the name of an anchor or alias from the character on that announces it. -/
def readAnchor (construct : Construct) (c : Cursor) : Except Malformed (List Char × Cursor) :=
  let (name, next) := c.skip.takeWhile isNameChar
  if !name.isEmpty && (isSeparated next.rest || next.head?.any fun d => "?:,]\x7d%@\x60".toList.contains d) then
    .ok (name, next)
  else fail construct c.mark .noNameCharacter next

def longestVersion : Nat := 9

def readVersionNumber (start : Mark) (c : Cursor) : Except Malformed (Nat × Cursor) :=
  let (digits, next) := c.takeWhile isDigit
  if digits.length > longestVersion then fail .versionDirective start .longVersion (c.skipMany longestVersion)
  else if digits.isEmpty then fail .versionDirective start .noVersion c
  else .ok (numeral 10 digits, next)

def readVersion (start : Mark) (c : Cursor) : Except Malformed (Symbol × Cursor) := do
  let (major, c) ← readVersionNumber start c.skipBlanks
  if c.head? = some '.' then
    let (minor, c) ← readVersionNumber start c.skip
    return (.version major minor, c)
  else fail .versionDirective start .noPoint c

def readShorthand (start : Mark) (c : Cursor) : Except Malformed (Symbol × Cursor) := do
  let c := c.skipBlanks
  if c.head? ≠ some '!' then fail .handleDirective start .noBang c
  else
    let (handle, c) := readHandle c
    if handle ≠ ['!'] && handle.getLast? ≠ some '!' then fail .directiveHandle start .noBang c
    else if !c.head?.any isSpaceOrTab then fail .tagDirective start .noBlank c
    else
      let (text, c) ← readTagText ⟨.directiveTag, start⟩ true [] c.skipBlanks
      if isSeparated c.rest then return (.shorthand handle text, c)
      else fail .tagDirective start .noBlankOrBreak c

/-- Read a directive with the rest of its line. -/
def readDirective (c : Cursor) : Except Malformed (Token × Cursor) := do
  let start := c.mark
  let (name, c) := c.skip.takeWhile isNameChar
  if name.isEmpty then fail .directive start .noDirectiveName c
  else if !isSeparated c.rest then fail .directive start .nonAlphabetic c
  else
    let (symbol, c) ←
      if name = "YAML".toList then readVersion start c
      else if name = "TAG".toList then readShorthand start c
      else fail .directive start .unknownDirective c
    let c := c.skipBlanks.skipComment
    if isBreakOrEnd c.rest then return (⟨start, symbol⟩, c.skipBreak)
    else fail .directive start .noCommentOrBreak c

end Frontmark.Yaml
