import Frontmark.Text.Extending
import Frontmark.Text.Unprintable

/-! Quoted text: one line whatever the text holds, from which the text can be read back. -/

set_option autoImplicit false

namespace Frontmark.Text.Quoted

def hex (n : Nat) : List Char :=
  Nat.toDigits 16 n

/-- Quotes, backslashes and the common controls have short escapes. A character that a reader would
not see as one of its own is written by its code point. -/
def escape (c : Char) : List Char :=
  if c = '\t' then ['\\', 't']
  else if c = '\r' then ['\\', 'r']
  else if c = '\n' then ['\\', 'n']
  else if c = '"' then ['\\', '"']
  else if c = '\\' then ['\\', '\\']
  else if c.toNat = 0 then ['\\', '0']
  else if extending.contains c || unprintable.contains c then
    ['\\', 'u', '\x7b'] ++ hex c.toNat ++ ['\x7d']
  else [c]

def encode (text : List Char) : List Char :=
  '"' :: text.flatMap escape ++ ['"']

def quote (text : String) : String :=
  String.ofList (encode text.toList)

end Frontmark.Text.Quoted
