import Frontmark.Yaml.Cursor

/-! The tokens of a YAML text. -/

set_option autoImplicit false

namespace Frontmark.Yaml

/-- How a scalar is written. -/
inductive Style where
  | plain
  | singleQuoted
  | doubleQuoted
  | literal
  | folded
  deriving DecidableEq, Repr

inductive Symbol where
  | textEnd
  | version (major minor : Nat)
  /-- Tags that begin with `handle` stand for longer ones, which begin with `start`. -/
  | shorthand (handle : List Char) (start : List UInt8)
  | documentStart
  | documentEnd
  | blockSequence
  | blockMapping
  | blockEnd
  | sequenceStart
  | sequenceEnd
  | mappingStart
  | mappingEnd
  | dash
  | comma
  | key
  | value
  | reference (name : List Char)
  | anchor (name : List Char)
  | tag (handle : List Char) (suffix : List UInt8)
  | scalar (style : Style) (text : List Char)
  deriving DecidableEq, Repr

structure Token where
  mark : Mark
  symbol : Symbol
  deriving DecidableEq, Repr

end Frontmark.Yaml
