/-! What can vary in reading a document. -/

set_option autoImplicit false

namespace Frontmark

structure Options where
  /-- Refuse a document whose header is not well-formed YAML. -/
  validateHeader : Bool := true
  /-- Curly quotes, dashes and ellipses. -/
  smart : Bool := false
  strikethrough : Bool := false
  table : Bool := false
  autolink : Bool := false
  tasklist : Bool := false
  footnotes : Bool := false
  superscript : Bool := false
  deriving DecidableEq, Repr

end Frontmark
