import Frontmark.Text.Quoted
import Frontmark.Yaml.Cursor

/-! What can be wrong with a YAML text, and how it is said. -/

set_option autoImplicit false

namespace Frontmark.Yaml

/-- What is wrong with the form of a text. -/
inductive Problem where
  | controlCharacter
  | noToken
  | noColon
  | entryNotAllowed
  | keyNotAllowed
  | valueNotAllowed
  | noDirectiveName
  | nonAlphabetic
  | unknownDirective
  | noVersion
  | longVersion
  | noPoint
  | noBlank
  | noBlankOrBreak
  | noCommentOrBreak
  | noNameCharacter
  | noBang
  | noTagText
  | noTagEnd
  | noOctet
  | wrongLeadingOctet
  | wrongTrailingOctet
  | zeroIndentation
  | tabInIndentation
  | tabBeforeText
  | documentLine
  | endOfText
  | unknownEscape
  | noHexNumber
  | noCharacterCode
  | colonInFlow
  | repeatedVersion
  | otherVersion
  | repeatedHandle
  | unknownHandle
  | noDocumentStart
  | noContent
  | noDash
  | noKey
  | noCommaOrBracket
  | noCommaOrBrace
  deriving DecidableEq, Repr

def Problem.text : Problem → String
  | controlCharacter => "control characters are not allowed"
  | noToken => "found character that cannot start any token"
  | noColon => "could not find expected ':'"
  | entryNotAllowed => "block sequence entries are not allowed in this context"
  | keyNotAllowed => "mapping keys are not allowed in this context"
  | valueNotAllowed => "mapping values are not allowed in this context"
  | noDirectiveName => "could not find expected directive name"
  | nonAlphabetic => "found unexpected non-alphabetical character"
  | unknownDirective => "found unknown directive name"
  | noVersion => "did not find expected version number"
  | longVersion => "found extremely long version number"
  | noPoint => "did not find expected digit or '.' character"
  | noBlank => "did not find expected whitespace"
  | noBlankOrBreak => "did not find expected whitespace or line break"
  | noCommentOrBreak => "did not find expected comment or line break"
  | noNameCharacter => "did not find expected alphabetic or numeric character"
  | noBang => "did not find expected '!'"
  | noTagText => "did not find expected tag URI"
  | noTagEnd => "did not find the expected '>'"
  | noOctet => "did not find URI escaped octet"
  | wrongLeadingOctet => "found an incorrect leading UTF-8 octet"
  | wrongTrailingOctet => "found an incorrect trailing UTF-8 octet"
  | zeroIndentation => "found an indentation indicator equal to 0"
  | tabInIndentation => "found a tab character where an indentation space is expected"
  | tabBeforeText => "found a tab character that violates indentation"
  | documentLine => "found unexpected document indicator"
  | endOfText => "found unexpected end of stream"
  | unknownEscape => "found unknown escape character"
  | noHexNumber => "did not find expected hexadecimal number"
  | noCharacterCode => "found invalid Unicode character escape code"
  | colonInFlow => "found unexpected ':'"
  | repeatedVersion => "found duplicate %YAML directive"
  | otherVersion => "found incompatible YAML document"
  | repeatedHandle => "found duplicate %TAG directive"
  | unknownHandle => "found undefined tag handle"
  | noDocumentStart => "did not find expected <document start>"
  | noContent => "did not find expected node content"
  | noDash => "did not find expected '-' indicator"
  | noKey => "did not find expected key"
  | noCommaOrBracket => "did not find expected ',' or ']'"
  | noCommaOrBrace => "did not find expected ',' or '\x7d'"

/-- The construct that was being read. -/
inductive Construct where
  | token
  | simpleKey
  | directive
  | versionDirective
  | tagDirective
  | handleDirective
  | directiveHandle
  | directiveTag
  | anchor
  | reference
  | tag
  | tagText
  | blockScalar
  | quotedScalar
  | escape
  | plainScalar
  | node
  | blockNode
  | flowNode
  | blockSequence
  | blockMapping
  | flowSequence
  | flowMapping
  deriving DecidableEq, Repr

def Construct.text : Construct → String
  | token => "while scanning for the next token"
  | simpleKey => "while scanning a simple key"
  | directive => "while scanning a directive"
  | versionDirective => "while scanning a %YAML directive"
  | tagDirective => "while scanning a %TAG directive"
  | handleDirective => "while scanning a tag directive"
  | directiveHandle => "while parsing a tag directive"
  | directiveTag => "while parsing a %TAG directive"
  | anchor => "while scanning an anchor"
  | reference => "while scanning an alias"
  | tag => "while scanning a tag"
  | tagText => "while parsing a tag"
  | blockScalar => "while scanning a block scalar"
  | quotedScalar => "while scanning a quoted scalar"
  | escape => "while parsing a quoted scalar"
  | plainScalar => "while scanning a plain scalar"
  | node => "while parsing a node"
  | blockNode => "while parsing a block node"
  | flowNode => "while parsing a flow node"
  | blockSequence => "while parsing a block collection"
  | blockMapping => "while parsing a block mapping"
  | flowSequence => "while parsing a flow sequence"
  | flowMapping => "while parsing a flow mapping"

/-- A fault in the form of a text. `offset` counts the bytes before a character that no text may hold;
for all other faults it is zero. -/
structure Malformed where
  problem : Problem
  mark : Mark := {}
  offset : Nat := 0
  within? : Option (Construct × Mark) := none
  deriving DecidableEq, Repr

namespace Malformed

def place (m : Malformed) : String :=
  if !m.mark.isStart then m.mark.text
  else if m.offset ≠ 0 then " at position " ++ toString m.offset
  else ""

def context (m : Malformed) : String :=
  match m.within? with
  | none => ""
  | some (construct, start) =>
    ", " ++ construct.text ++ if start.samePlace m.mark then "" else start.text?

def message (m : Malformed) : String :=
  m.problem.text ++ m.place ++ m.context

end Malformed

end Frontmark.Yaml
