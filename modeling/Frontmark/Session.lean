import Frontmark.Attributes.Shape
import Frontmark.Document
import Frontmark.Markup.View

/-! Work on one document in steps, each of which is answered. -/

set_option autoImplicit false

namespace Frontmark

open Frontmark.Attributes (Failure Shape)
open Frontmark.Markup (Forest Kind Side Value View Visit Walker)

structure Session where
  options : Options := {}
  header : Option String := none
  /-- The body, whose root has the identity zero, and the trees that have been taken out of it. -/
  forest : Forest
  bodyBegin : Nat := 1
  walker : Option Walker := none

namespace Session

/-- What can be done at a node. -/
inductive Step where
  | markdown
  | render
  | view (name : String)
  | describe
  | setHeader (header : Option String)
  | attributes (shape : Shape)
  /-- Read the Markdown of the document as a new one. -/
  | reread
  | walk
  | next (visits : Nat)
  | setValue (value : Value)
  | detach
  /-- Put a new node on a side of this one. -/
  | add (value : Value) (side : Side)
  /-- Put another node there. -/
  | move (id : Nat) (side : Side)

inductive Reply where
  | done
  | text (s : String)
  | header (header : Option String)
  | kind (kind : Kind)
  | identity (id : Nat)
  | size (nodes : Nat)
  | json (j : Json)
  /-- The visits of a walk, and how many that were asked for did not take place. -/
  | visits (visits : List Visit) (missing : Nat)
  | noNode
  | noView (name : String)
  | refused (cause : HeaderError)
  | failed (cause : Failure)

def ofDocument (o : Options) (d : Document) : Session :=
  ⟨o, d.header, Forest.ofTree d.body, d.bodyBegin, none⟩

def markdown (s : Session) : String :=
  Header.attach s.header (s.forest.render 0)

def reread (s : Session) : Reply × Session :=
  match Document.read s.options s.markdown with
  | .error cause => (.refused cause, s)
  | .ok d =>
    let s := ofDocument s.options d
    (.size s.forest.size, s)

/-- A step at the node `id`, which has to be there. -/
def step (s : Session) (id : Nat) (step : Step) : Reply × Session :=
  match s.forest.tree? id with
  | none => (.noNode, s)
  | some _ =>
    match step with
    | .markdown => (.text s.markdown, s)
    | .render => (.text (s.forest.render id), s)
    | .view name =>
      match View.ofName? name with
      | none => (.noView name, s)
      | some view => (.text (view.page s.forest id), s)
    | .describe => (.text (Document.describe s.header ((s.forest.value? 0).getD .document) s.bodyBegin), s)
    | .setHeader header => (.header header, { s with header })
    | .attributes shape =>
      match shape.json s.header with
      | .ok j => (.json j, s)
      | .error cause => (.failed cause, s)
    | .reread => s.reread
    | .walk => (.done, { s with walker := some (.start id) })
    | .next n =>
      match s.walker with
      | none => (.visits [] n, s)
      | some walker =>
        let (visits, walker) := walker.run s.forest.place? n
        (.visits visits (n - visits.length), { s with walker })
    | .setValue value => (.kind value.kind, { s with forest := s.forest.setValue id value })
    | .detach => (.done, { s with forest := s.forest.detach id })
    | .add value side => (.identity s.forest.fresh, { s with forest := s.forest.add value ⟨side, id⟩ })
    | .move other side =>
      match s.forest.tree? other with
      | none => (.noNode, s)
      | some _ => (.identity other, { s with forest := s.forest.move other ⟨side, id⟩ })

/-- The replies to steps, each with the node that it is done at. -/
def run (s : Session) : List (Nat × Step) → List Reply
  | [] => []
  | (id, step) :: steps =>
    let (reply, s) := s.step id step
    reply :: s.run steps

end Session

end Frontmark
