import Frontmark.Text.Utf8

/-! Parts of a text by the offsets of their bytes. -/

set_option autoImplicit false

namespace Frontmark.Text

/-- The bytes from `start` on, up to `stop`. -/
structure ByteRange where
  start : Nat
  stop : Nat
  deriving DecidableEq, Repr

/-- The range is in order and inside of the text, and no character lies across one of its ends. -/
structure ByteRange.Fits (r : ByteRange) (text : String) : Prop where
  ordered : r.start ≤ r.stop
  inside : r.stop ≤ text.utf8ByteSize
  start_whole : (String.Pos.Raw.mk r.start).IsValid text
  stop_whole : (String.Pos.Raw.mk r.stop).IsValid text

theorem ByteRange.fits_iff (r : ByteRange) (text : String) : r.Fits text ↔
    r.start ≤ r.stop ∧ r.stop ≤ text.utf8ByteSize ∧
      (String.Pos.Raw.mk r.start).IsValid text ∧ (String.Pos.Raw.mk r.stop).IsValid text :=
  ⟨fun fits => ⟨fits.ordered, fits.inside, fits.start_whole, fits.stop_whole⟩,
    fun ⟨ordered, inside, start_whole, stop_whole⟩ => ⟨ordered, inside, start_whole, stop_whole⟩⟩

instance (r : ByteRange) (text : String) : Decidable (r.Fits text) :=
  decidable_of_iff _ (r.fits_iff text).symm

/-- The part of a text in a range, if there is such a part. -/
def slice? (text : String) (r : ByteRange) : Option String :=
  if fits : r.Fits text then some (text.extract ⟨⟨r.start⟩, fits.start_whole⟩ ⟨⟨r.stop⟩, fits.stop_whole⟩)
  else none

/-- Where the first character stands that `p` holds of. -/
def firstOffset? (p : Char → Bool) : List Char → Option Nat
  | [] => none
  | c :: text => if p c then some 0 else (firstOffset? p text).map (c.utf8Size + ·)

/-- Where the last character stands that `p` holds of. -/
def lastOffset? (p : Char → Bool) : List Char → Option Nat
  | [] => none
  | c :: text =>
    match lastOffset? p text with
    | some offset => some (c.utf8Size + offset)
    | none => if p c then some 0 else none

end Frontmark.Text
