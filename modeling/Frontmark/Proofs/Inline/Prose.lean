import Frontmark.Inline.Reader
import Frontmark.Proofs.Text.Lines
import Mathlib.Data.List.Chain
import Mathlib.Data.List.Infix

/-! Lines of text whose markers are sure to be read as such, and all the rest as text.

`Part` is what such a line is made of: text, emphasis of both kinds, code spans and links. The conditions say what each
part may hold and how it may stand next to others. Some depend on the extensions that are enabled. -/

set_option autoImplicit false

namespace Frontmark.Inline

open Frontmark.Text

/-- Characters that can mean something with any options. -/
def special : List Char :=
  "\n_*\x60\\&<[]\r\x00\t\x0b\x0c".toList

/-- Characters that mean something with an extension. -/
def extended (o : Options) : List Char :=
  (if o.smart then "'\"".toList else []) ++ (if o.strikethrough then ['~'] else []) ++
    (if o.superscript then ['^'] else []) ++ (if o.autolink then ['@'] else [])

def isProse (o : Options) (c : Char) : Bool :=
  !special.contains c && !(extended o).contains c

/-- Letters, digits and whatever else is neither a blank nor punctuation. -/
def isOrdinary (c : Char) : Bool :=
  !isPunctuation c && !isBlank c && c ≠ '\x00' && c ≠ '\ufeff'

/-- Characters that a paragraph can begin with, as far as they alone tell. -/
def isFirst (c : Char) : Bool :=
  !isBlank c && !"#>~=-+|:\ufeff".toList.contains c

variable {o : Options} {c d : Char}

theorem ne_of_isProse (prose : isProse o c = true) (member : d ∈ special) : c ≠ d := by
  rintro rfl
  simp [isProse, member] at prose

theorem notMem_extended (prose : isProse o c = true) : c ∉ extended o := by
  intro member
  simp [isProse, member] at prose

/-- Text without markers. -/
structure IsProse (o : Options) (text : List Char) : Prop where
  chars : ∀ c ∈ text, isProse o c = true
  dots : o.smart = true → ¬ "..".toList <:+: text
  hyphens : o.smart = true → ¬ "--".toList <:+: text
  urls : o.autolink = true → ¬ "://".toList <:+: text
  hosts : o.autolink = true → ¬ "www.".toList <:+: text

instance (o : Options) (text : List Char) : Decidable (IsProse o text) :=
  decidable_of_iff
    ((∀ c ∈ text, isProse o c = true) ∧ (o.smart = true → ¬ "..".toList <:+: text) ∧ (o.smart = true → ¬ "--".toList <:+: text) ∧
      (o.autolink = true → ¬ "://".toList <:+: text) ∧ (o.autolink = true → ¬ "www.".toList <:+: text))
    ⟨fun ⟨chars, dots, hyphens, urls, hosts⟩ => ⟨chars, dots, hyphens, urls, hosts⟩,
      fun prose => ⟨prose.chars, prose.dots, prose.hyphens, prose.urls, prose.hosts⟩⟩

/-- Text that a marker can stand directly before and after. -/
structure IsPhrase (o : Options) (text : List Char) : Prop extends IsProse o text where
  first : text.head?.all isBlank = false
  last : text.getLast?.all isBlank = false
  word : ∃ c ∈ text, isOrdinary c = true

instance (o : Options) (text : List Char) : Decidable (IsPhrase o text) :=
  decidable_of_iff
    (IsProse o text ∧ text.head?.all isBlank = false ∧ text.getLast?.all isBlank = false ∧ ∃ c ∈ text, isOrdinary c = true)
    ⟨fun ⟨prose, first, last, word⟩ => ⟨prose, first, last, word⟩,
      fun phrase => ⟨phrase.toIsProse, phrase.first, phrase.last, phrase.word⟩⟩

def isCodeChar (c : Char) : Bool :=
  c ≠ '\x60' && c ≠ '\n' && c ≠ '\r' && c ≠ '\x00'

def isUrlChar (c : Char) : Bool :=
  !isControl c && !" ()\\&<".toList.contains c

/-- Whether stars between the two characters belong to the inner one. -/
def flanks (outer inner : Char) : Bool :=
  !isBlank inner && (isBlank outer || (isPunctuation outer && !isPunctuation inner))

inductive Part where
  | text (prose : List Char)
  | emph (phrase : List Char)
  | strong (phrase : List Char)
  | code (literal : List Char)
  | link (url phrase : List Char)

namespace Part

def chars : Part → List Char
  | text prose => prose
  | emph phrase => '*' :: (phrase ++ ['*'])
  | strong phrase => '*' :: '*' :: (phrase ++ ['*', '*'])
  | code literal => '\x60' :: (literal ++ ['\x60'])
  | link url phrase => '[' :: (phrase ++ ']' :: '(' :: (url ++ [')']))

def isText : Part → Bool
  | text _ => true
  | _ => false

/-- What stands between stars. -/
def starred? : Part → Option (List Char)
  | emph phrase | strong phrase => some phrase
  | _ => none

def isLink : Part → Bool
  | link .. => true
  | _ => false

def Fits (o : Options) : Part → Prop
  | text prose => prose ≠ [] ∧ IsProse o prose
  | emph phrase | strong phrase => IsPhrase o phrase
  | code literal => literal ≠ [] ∧ literal.head? ≠ some ' ' ∧ ∀ c ∈ literal, isCodeChar c = true
  | link url phrase => IsPhrase o phrase ∧ phrase.head? ≠ some '^' ∧ ∀ c ∈ url, isUrlChar c = true

instance (o : Options) : (p : Part) → Decidable (p.Fits o)
  | text prose => inferInstanceAs (Decidable (prose ≠ [] ∧ IsProse o prose))
  | emph phrase | strong phrase => inferInstanceAs (Decidable (IsPhrase o phrase))
  | code literal =>
    inferInstanceAs (Decidable (literal ≠ [] ∧ literal.head? ≠ some ' ' ∧ ∀ c ∈ literal, isCodeChar c = true))
  | link url phrase =>
    inferInstanceAs (Decidable (IsPhrase o phrase ∧ phrase.head? ≠ some '^' ∧ ∀ c ∈ url, isUrlChar c = true))

/-- Every second part is text. It leaves the stars to the phrase between them, and does not make an image of a link. -/
structure Meets (p q : Part) : Prop where
  alternate : p.isText ≠ q.isText
  before : ∀ phrase ∈ q.starred?, ∀ c ∈ p.chars.getLast?, ∀ d ∈ phrase.head?, flanks c d = true
  after : ∀ phrase ∈ p.starred?, ∀ c ∈ q.chars.head?, ∀ d ∈ phrase.getLast?, flanks c d = true
  image : q.isLink = true → p.chars.getLast? ≠ some '!'

instance (p q : Part) : Decidable (p.Meets q) :=
  decidable_of_iff
    (p.isText ≠ q.isText ∧ (∀ phrase ∈ q.starred?, ∀ c ∈ p.chars.getLast?, ∀ d ∈ phrase.head?, flanks c d = true) ∧
      (∀ phrase ∈ p.starred?, ∀ c ∈ q.chars.head?, ∀ d ∈ phrase.getLast?, flanks c d = true) ∧
      (q.isLink = true → p.chars.getLast? ≠ some '!'))
    ⟨fun ⟨alternate, before, after, image⟩ => ⟨alternate, before, after, image⟩,
      fun meets => ⟨meets.alternate, meets.before, meets.after, meets.image⟩⟩

end Part

def lineChars (parts : List Part) : List Char :=
  parts.flatMap Part.chars

/-- A line that does not begin like a block, and does not end with a space. -/
structure IsLine (o : Options) (parts : List Part) : Prop where
  fits : ∀ p ∈ parts, p.Fits o
  meets : parts.IsChain Part.Meets
  first : (lineChars parts).head?.any isFirst = true
  number : ∀ c ∈ ((lineChars parts).dropWhile isDigit).head?, c ≠ '.' ∧ c ≠ ')'
  last : (lineChars parts).getLast? ≠ some ' '

theorem IsLine.nonempty {parts : List Part} (line : IsLine o parts) : parts ≠ [] := by
  rintro rfl
  cases line.first

instance (o : Options) (parts : List Part) : Decidable (IsLine o parts) :=
  decidable_of_iff
    ((∀ p ∈ parts, p.Fits o) ∧ parts.IsChain Part.Meets ∧ (lineChars parts).head?.any isFirst = true ∧
      (∀ c ∈ ((lineChars parts).dropWhile isDigit).head?, c ≠ '.' ∧ c ≠ ')') ∧ (lineChars parts).getLast? ≠ some ' ')
    ⟨fun ⟨fits, meets, first, number, last⟩ => ⟨fits, meets, first, number, last⟩,
      fun line => ⟨line.fits, line.meets, line.first, line.number, line.last⟩⟩

end Frontmark.Inline
