import Frontmark.Text.Quoted
import Frontmark.Proofs.Text.Lines

/-! Reading quoted text back.

`readChar?` takes the escape of a character off a text, whichever escape it is, so a quoted text can have come from one
text only (`quote_injective`). A quoted text has no line breaks. -/

set_option autoImplicit false

namespace Frontmark.Text.Quoted

section Hex

def hexValue (c : Char) : Nat :=
  if c.isDigit then c.toNat - '0'.toNat else c.toNat - 'a'.toNat + 10

/-- The number that is written with these digits. -/
def ofHex (digits : List Char) : Nat :=
  digits.foldl (fun n c => 16 * n + hexValue c) 0

theorem hexValue_digitChar {n : Nat} (small : n < 16) : hexValue n.digitChar = n := by
  have every : ∀ n < 16, hexValue n.digitChar = n := by decide
  exact every n small

theorem ofHex_concat (digits : List Char) (c : Char) : ofHex (digits ++ [c]) = 16 * ofHex digits + hexValue c :=
  List.foldl_concat ..

theorem hex_eq (n : Nat) : hex n = if n < 16 then [n.digitChar] else hex (n / 16) ++ [(n % 16).digitChar] :=
  Nat.toDigits_eq_if (by decide)

theorem ofHex_hex (n : Nat) : ofHex (hex n) = n := by
  induction n using Nat.strongRecOn with
  | ind n ih =>
    rw [hex_eq]
    split
    · next small => simp [ofHex, hexValue_digitChar small]
    · next large =>
      rw [ofHex_concat, ih (n / 16) (by omega), hexValue_digitChar (Nat.mod_lt n (by decide)), Nat.div_add_mod]

def hexDigits : List Char :=
  "0123456789abcdef".toList

theorem mem_hexDigits_of_mem_hex {n : Nat} {c : Char} (member : c ∈ hex n) : c ∈ hexDigits := by
  have every : ∀ n < 16, n.digitChar ∈ hexDigits := by decide
  induction n using Nat.strongRecOn with
  | ind n ih =>
    rw [hex_eq] at member
    split at member
    · next small => exact List.mem_singleton.mp member ▸ every n small
    · rcases List.mem_append.mp member with member | member
      · exact ih (n / 16) (by omega) member
      · exact List.mem_singleton.mp member ▸ every _ (Nat.mod_lt n (by decide))

end Hex

/-- What a backslash stands for with the characters behind it, and what follows these. -/
def readEscape? : List Char → Option (Char × List Char)
  | [] => none
  | c :: rest =>
    if c = 't' then some ('\t', rest)
    else if c = 'r' then some ('\r', rest)
    else if c = 'n' then some ('\n', rest)
    else if c = '0' then some (Char.ofNat 0, rest)
    else if c = 'u' then
      some (Char.ofNat (ofHex (rest.tail.takeWhile (· ≠ '\x7d'))), (rest.tail.dropWhile (· ≠ '\x7d')).tail)
    else some (c, rest)

/-- The character with which a quoted text goes on. -/
def readChar? : List Char → Option (Char × List Char)
  | [] => none
  | c :: rest => if c = '\\' then readEscape? rest else some (c, rest)

theorem readEscape?_hex (n : Nat) (rest : List Char) :
    readEscape? ('u' :: '\x7b' :: (hex n ++ '\x7d' :: rest)) = some (Char.ofNat n, rest) := by
  have brace : '\x7d' ∉ hexDigits := by decide
  have inside : ∀ c ∈ hex n, decide (c ≠ '\x7d') = true := by
    intro c member
    exact decide_eq_true fun same => brace (same ▸ mem_hexDigits_of_mem_hex member)
  have digits : (hex n ++ '\x7d' :: rest).takeWhile (· ≠ '\x7d') = hex n := by
    rw [List.takeWhile_append_of_pos inside, List.takeWhile_cons_of_neg (by decide), List.append_nil]
  have after : (hex n ++ '\x7d' :: rest).dropWhile (· ≠ '\x7d') = '\x7d' :: rest := by
    rw [List.dropWhile_append_of_pos inside, List.dropWhile_cons_of_neg (by decide)]
  have read : readEscape? ('u' :: '\x7b' :: (hex n ++ '\x7d' :: rest)) =
      some (Char.ofNat (ofHex ((hex n ++ '\x7d' :: rest).takeWhile (· ≠ '\x7d'))),
        ((hex n ++ '\x7d' :: rest).dropWhile (· ≠ '\x7d')).tail) := rfl
  rw [read, digits, after, ofHex_hex, List.tail_cons]

theorem readChar?_escape (c : Char) (rest : List Char) : readChar? (escape c ++ rest) = some (c, rest) := by
  unfold escape
  split_ifs with tab ret newline quote backslash zero unseen
  · simp [readChar?, readEscape?, tab]
  · simp [readChar?, readEscape?, ret]
  · simp [readChar?, readEscape?, newline]
  · simp [readChar?, readEscape?, quote]
  · simp [readChar?, readEscape?, backslash]
  · have same : Char.ofNat 0 = c := zero ▸ Char.ofNat_toNat c
    rw [← same]
    rfl
  · simpa [readChar?] using readEscape?_hex c.toNat rest
  · simp [readChar?, backslash]

theorem flatMap_escape_injective : Function.Injective fun text : List Char => text.flatMap escape := by
  intro text other same
  dsimp only at same
  induction text generalizing other with
  | nil =>
    cases other with
    | nil => rfl
    | cons d other =>
      have read := readChar?_escape d (other.flatMap escape)
      rw [← List.flatMap_cons, ← same] at read
      cases read
  | cons c text ih =>
    -- the same character can be taken off both sides, and what follows it is the same again
    have read := readChar?_escape c (text.flatMap escape)
    rw [← List.flatMap_cons, same] at read
    cases other with
    | nil => cases read
    | cons d other =>
      rw [List.flatMap_cons, readChar?_escape, Option.some.injEq, Prod.mk.injEq] at read
      rw [read.1, ih read.2.symm]

theorem quote_injective : Function.Injective quote := by
  intro text other same
  have encoded : encode text.toList = encode other.toList := String.ofList_injective same
  rw [encode, encode, List.append_left_inj, List.cons_inj_right] at encoded
  exact String.toList_inj.mp (flatMap_escape_injective encoded)

theorem newline_notMem_escape (c : Char) : '\n' ∉ escape c := by
  have digit : '\n' ∉ hexDigits := by decide
  unfold escape
  split_ifs with tab ret newline quote backslash zero unseen
  · decide
  · decide
  · decide
  · decide
  · decide
  · decide
  · simpa using mt mem_hexDigits_of_mem_hex digit
  · simpa using Ne.symm newline

/-- A quoted text stands on one line. -/
theorem newline_notMem_quote (text : String) : '\n' ∉ (quote text).toList := by
  simp [quote, encode, newline_notMem_escape]

end Frontmark.Text.Quoted
