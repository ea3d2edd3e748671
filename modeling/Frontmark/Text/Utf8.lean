/-! Text and its bytes. -/

set_option autoImplicit false

namespace Frontmark.Text.Utf8

/-- How many bytes a text takes. -/
def size (text : List Char) : Nat :=
  text.foldr (fun c n => c.utf8Size + n) 0

/-- Read `count` more bytes of a character, the first of them within bounds. Bytes that do not belong to it are
left, whether it is complete or not. -/
def continuation (code : Nat) : (count low high : Nat) → List UInt8 → Option Char × List UInt8
  | 0, _, _, rest => (some (Char.ofNat code), rest)
  | _ + 1, _, _, [] => (none, [])
  | count + 1, low, high, b :: rest =>
    if low ≤ b.toNat && b.toNat ≤ high then continuation (code * 64 + b.toNat % 64) count 0x80 0xBF rest
    else (none, b :: rest)

/-- Read the character that starts with a byte. The bounds of the second byte leave out longer forms than
needed, surrogates and what is beyond the last code point. -/
def character (b : UInt8) (rest : List UInt8) : Option Char × List UInt8 :=
  let n := b.toNat
  if n ≤ 0x7F then (some (Char.ofNat n), rest)
  else if n ≤ 0xC1 then (none, rest)
  else if n ≤ 0xDF then continuation (n % 32) 1 0x80 0xBF rest
  else if n = 0xE0 then continuation 0 2 0xA0 0xBF rest
  else if n = 0xED then continuation 13 2 0x80 0x9F rest
  else if n ≤ 0xEF then continuation (n % 16) 2 0x80 0xBF rest
  else if n = 0xF0 then continuation 0 3 0x90 0xBF rest
  else if n ≤ 0xF3 then continuation (n % 8) 3 0x80 0xBF rest
  else if n = 0xF4 then continuation 4 3 0x80 0x8F rest
  else (none, rest)

theorem length_continuation (code count low high : Nat) (bytes : List UInt8) :
    (continuation code count low high bytes).2.length ≤ bytes.length := by
  induction bytes generalizing code count low high with
  | nil => cases count <;> simp [continuation]
  | cons b rest ih =>
    cases count with
    | zero => simp [continuation]
    | succ count =>
      simp only [continuation]
      split
      · exact Nat.le_succ_of_le (ih ..)
      · simp

theorem length_character (b : UInt8) (rest : List UInt8) : (character b rest).2.length ≤ rest.length := by
  simp only [character]
  repeat' split
  all_goals first
    | exact length_continuation ..
    | exact Nat.le_refl _

/-- The characters of a text, with a gap for every sequence of bytes that begins a character and is none. -/
def characters : List UInt8 → List (Option Char)
  | [] => []
  | b :: rest =>
    let c := character b rest
    c.1 :: characters c.2
termination_by bytes => bytes.length
decreasing_by exact Nat.lt_succ_of_le (length_character b rest)

def encode (text : List Char) : List UInt8 :=
  text.flatMap String.utf8EncodeChar

def decode? (bytes : List UInt8) : Option String :=
  ((characters bytes).mapM id).map String.ofList

/-- Gaps become replacement characters. -/
def decodeLossy (bytes : List UInt8) : String :=
  String.ofList ((characters bytes).map (·.getD '\ufffd'))

end Frontmark.Text.Utf8
