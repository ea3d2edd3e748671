import Frontmark.Yaml.Layout

/-! All tokens of a text.

A text is looked through for characters that no text may hold, one stretch of it after the other, and only
when reading comes to the stretch. So what precedes can be at fault first. -/

set_option autoImplicit false

namespace Frontmark.Yaml

open Frontmark.Text

/-- The characters that a text can hold: no controls, save tabs and line breaks, and no noncharacters at the
end of the basic plane. -/
def isAllowed (c : Char) : Bool :=
  let n := c.toNat
  n = 9 || n = 10 || n = 13 || (0x20 ≤ n && n ≤ 0x7E) || n = 0x85 || (0xA0 ≤ n && n ≤ 0xFFFD) || 0x10000 ≤ n

/-- How many bytes a stretch has at most. -/
def stretchLimit : Nat := 16384

/-- How many characters are looked at where a token starts. -/
def lookahead : Nat := 4

/-- A character that is not allowed, and how far reading comes before it is met. -/
structure Obstacle where
  fault : Malformed
  /-- The bytes before the stretch with the character. -/
  limit : Nat
  /-- The bytes before the first place at which no token can start. -/
  lastStart : Nat

/-- The characters before the stretch that holds the last character of a text. All are in reverse order, and
`size` is the size of those in `stretch`. -/
def beforeStretch : (before stretch : List Char) → (size : Nat) → List Char → List Char
  | before, _, _, [] => before
  | before, stretch, size, c :: text =>
    if size + c.utf8Size ≤ stretchLimit then beforeStretch before (c :: stretch) (size + c.utf8Size) text
    else beforeStretch (stretch ++ before) [c] c.utf8Size text

def obstacle? (text : List Char) : Option Obstacle :=
  let allowed := text.takeWhile isAllowed
  match text.drop allowed.length with
  | [] => none
  | c :: _ =>
    let before := beforeStretch [] [] 0 (allowed ++ [c])
    some
      { fault := { problem := .controlCharacter, offset := Utf8.size allowed }
        limit := Utf8.size before
        lastStart := Utf8.size (before.drop (lookahead - 1)) }

namespace Obstacle

def isMetBy (o : Obstacle) (l : Layout) : Bool :=
  o.limit ≤ l.mark.offset || l.tokens.head?.any (o.lastStart ≤ ·.mark.offset)

/-- Of two faults the one that is met first. -/
def orElse (o : Obstacle) (fault : Malformed) : Malformed :=
  if o.limit ≤ fault.mark.offset then o.fault else fault

end Obstacle

/-- The tokens that are certain, and the fault that ends them unless the text is read to its end. -/
structure Tokens where
  tokens : List Token
  fault? : Option Malformed

/-- Read tokens until the text ends. A fault takes those with it that were not certain when it was met.
Each token takes at least one character, save the last one. -/
def Layout.run (obstacle? : Option Obstacle) : (limit : Nat) → Layout → Tokens
  | 0, l => ⟨l.tokens.reverse, none⟩
  | limit + 1, l =>
    if l.ended then ⟨l.tokens.reverse, none⟩
    else
      let stopped (fault : Malformed) : Tokens := ⟨l.tokens.reverse.take l.settled, some fault⟩
      match l.next limit, obstacle? with
      | .ok next, some o => if o.isMetBy next then stopped o.fault else run obstacle? limit next
      | .ok next, none => run obstacle? limit next
      | .error fault, some o => stopped (o.orElse fault)
      | .error fault, none => stopped fault

def tokens (text : List Char) : Tokens :=
  Layout.run (obstacle? text) (text.length + 1) { cursor := ⟨{}, text⟩ }

end Frontmark.Yaml
