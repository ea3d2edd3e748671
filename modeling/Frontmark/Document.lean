import Frontmark.Attributes.Header
import Frontmark.Body.Reader
import Frontmark.Header
import Frontmark.Markup.Render
import Frontmark.Text.Quoted

/-! Documents: a header, if there is one, and a body. -/

set_option autoImplicit false

namespace Frontmark

open Frontmark.Markup (Forest Rendering Report RoseTree Value)

structure Document where
  header : Option String
  body : RoseTree Value
  /-- The line of the text on which the body starts, counted from one. -/
  bodyBegin : Nat

/-- Work that may be refused, with the reports that it makes. Those made before it is refused stay. -/
abbrev Logged := ExceptT HeaderError (StateM (List Report))

def Logged.report (reports : List Report) : Logged Unit :=
  modify (· ++ reports)

namespace Document

/-- One line about a document: its header, the kind of its root and where the body starts. -/
def describe (header : Option String) (root : Value) (bodyBegin : Nat) : String :=
  let shown :=
    match header with
    | none => "None"
    | some header => "Some(" ++ Text.Quoted.quote header ++ ")"
  "Document \x7b header: " ++ shown ++ ", body: " ++ root.kind.label ++ ", body_begin: " ++ toString bodyBegin ++ " \x7d"

/-- What reads the body of a document. -/
abbrev BodyReader := Options → String → RoseTree Value

/-- The document of a text that is divided already. -/
def ofSplit (read : BodyReader) (o : Options) (s : Header.Split) : Document :=
  ⟨s.header, read o s.body, s.bodyBegin⟩

/-- Divide a text and refuse it if its header is not well-formed, unless that is not to be checked. -/
def divide (o : Options) (text : String) : Except HeaderError Header.Split :=
  let s := Header.split text
  if o.validateHeader then (Header.validate s.header).map fun _ => s else .ok s

def readBy (read : BodyReader) (o : Options) (text : String) : Except HeaderError Document :=
  (divide o text).map (ofSplit read o)

def read : (o : Options) → (text : String) → Except HeaderError Document :=
  readBy Body.read

def toMarkdown (d : Document) : String :=
  Header.attach d.header (Markup.render d.body)

/-- Read a text and report how it is divided, unless it is refused before that. -/
def readLogged (read : BodyReader) (o : Options) (text : String) : Logged Document := do
  let s ← ofExcept (divide o text)
  Logged.report [.divided s.header.isSome s.bodyBegin]
  return ofSplit read o s

/-- The Markdown of a document, with an account of its rendering. -/
def rendering (d : Document) : Rendering :=
  let r := (Forest.ofTree d.body).rendering 0
  ⟨Header.attach d.header r.text, r.reports⟩

def writeLogged (d : Document) : Logged String := do
  let r := d.rendering
  Logged.report r.reports
  return r.text

end Document

/-- Read a text, write it in its normal form and report on both, whatever reads its body. -/
def roundTripLogged (read : Document.BodyReader) (o : Options) (text : String) : Logged String := do
  let d ← Document.readLogged read o text
  d.writeLogged

/-- What the round trip of a text comes to, and all that is reported until then. -/
def account (o : Options) (text : String) : Except HeaderError String × List Report :=
  (roundTripLogged Body.read o text).run.run []

/-- Read a text and write it in its normal form, with the reports of that. -/
def normalize (o : Options) (text : String) : Except HeaderError Rendering :=
  let (outcome, reports) := account o text
  outcome.map fun text => ⟨text, reports⟩

/-- The round trip of a text, whatever reads its body. -/
def roundTripBy (read : Document.BodyReader) (o : Options) (text : String) : Except HeaderError String :=
  (Document.readBy read o text).map Document.toMarkdown

def roundTrip : (o : Options) → (text : String) → Except HeaderError String :=
  roundTripBy Body.read

end Frontmark
