import Frontmark.Proofs.Document.Header
import Frontmark.Proofs.Markup.Editing
import Frontmark.Proofs.Markup.Reports

/-! What a round trip reports of itself.

Main statement: nothing of a text that is refused, and of any other first how it is divided and then the account of its
rendering, which has every extension that is visited and counts all visits (`reports_roundTripLogged`). -/

set_option autoImplicit false

namespace Frontmark

open Frontmark.Header (split)
open Frontmark.Markup (Edit Forest Kind Report RoseTree Value reportsOf)

/-- Nothing is reported after work that is refused, and what has been reported before stays. -/
theorem Logged.run_bind {α β : Type} (work : Logged α) (next : α → Logged β) (earlier : List Report) :
    (work >>= next).run.run earlier =
      match work.run.run earlier with
      | (.error cause, reports) => (.error cause, reports)
      | (.ok a, reports) => (next a).run.run reports := by
  change ExceptT.bindCont next (work earlier).1 (work earlier).2 = _
  change _ = match work earlier with | (.error cause, reports) => _ | (.ok a, reports) => _
  rcases work earlier with ⟨_ | _, reports⟩ <;> rfl

namespace Document

variable (read : BodyReader) (o : Options) (text : String) (earlier : List Report)

theorem run_readLogged : (readLogged read o text).run.run earlier =
    match divide o text with
    | .error cause => (.error cause, earlier)
    | .ok s => (.ok (ofSplit read o s), earlier ++ [.divided s.header.isSome s.bodyBegin]) := by
  unfold readLogged
  cases divide o text with
  | error cause => rfl
  | ok s => rfl

theorem run_writeLogged (d : Document) : d.writeLogged.run.run earlier =
    (.ok d.toMarkdown, earlier ++ ((Forest.ofTree d.body).rendering 0).reports) :=
  rfl

theorem run_roundTripLogged : (roundTripLogged read o text).run.run earlier =
    match divide o text with
    | .error cause => (.error cause, earlier)
    | .ok s => (.ok (ofSplit read o s).toMarkdown,
        earlier ++ .divided s.header.isSome s.bodyBegin :: ((Forest.ofTree (read o s.body)).rendering 0).reports) := by
  rw [roundTripLogged, Logged.run_bind, run_readLogged]
  cases divide o text with
  | error cause => rfl
  | ok s =>
    dsimp only
    rw [run_writeLogged, List.append_assoc, List.singleton_append]
    rfl

/-- The account of a run is exact. A rendering reports each extension that it visits, in the order of the visits, and
no other node, and at last the number of visits and the size of its text. A round trip that is refused reports
nothing; any other reports how the text is divided, and then what the rendering of its body reports. -/
theorem reports_roundTripLogged (t : RoseTree Value) (edits : List Edit) {root : Nat} {tree : RoseTree Markup.Node} :
    let f := edits.foldl Forest.edit (Forest.ofTree t)
    let s := split text
    let run := (roundTripLogged read o text).run.run earlier
    (f.tree? root = some tree →
      reportsOf (f.visits root) =
        (tree.reached.filter (·.kind = .other)).map (fun node => (node.id, .skipped .other)) ∧
      (f.rendering root).reports = (reportsOf (f.visits root)).map Prod.snd ++
        [.rendered (tree.reached.length + tree.reached.countP RoseTree.opens) (f.render root).utf8ByteSize]) ∧
    (run.1 = roundTripBy read o text ∧
      (∀ cause, run.1 = .error cause → run.2 = earlier) ∧
      ∀ out, run.1 = .ok out → run.2 = earlier ++
        .divided s.header.isSome s.bodyBegin :: ((Forest.ofTree (read o s.body)).rendering 0).reports) ∧
    (∀ kind, (Report.skipped kind).level = .trace ∧ (Report.skipped kind).topic = "mdex::render") ∧
    (∀ visits bytes, (Report.rendered visits bytes).level = .debug ∧
      (Report.rendered visits bytes).topic = "mdex::render") ∧
    ∀ hasHeader bodyBegin, (Report.divided hasHeader bodyBegin).level = .debug ∧
      (Report.divided hasHeader bodyBegin).topic = "mdex::parse" := by
  intro f s run
  refine ⟨fun found => ?_, ?_, fun _ => ⟨rfl, rfl⟩, fun _ _ => ⟨rfl, rfl⟩, fun _ _ => ⟨rfl, rfl⟩⟩
  · have sound : f.Sound := (Forest.sound_ofTree t).edits edits
    obtain ⟨p, member, rfl, rfl⟩ := Forest.exists_place_of_tree? found
    exact ⟨sound.reportsOf_visits member, sound.reports_rendering member⟩
  · have whole : run = _ := run_roundTripLogged read o text earlier
    rw [whole, roundTripBy, readBy]
    cases divided : divide o text with
    | error cause => exact ⟨rfl, fun _ _ => rfl, nofun⟩
    | ok s' =>
      obtain rfl : s' = s := eq_split_of_divide divided
      exact ⟨rfl, nofun, fun _ _ => rfl⟩

/-- Two extensions are reported. A third one is not: it has been added below a text, and no visit comes to it. A round
trip adds to what has been reported before, and nothing if it is refused. -/
theorem reports_roundTripLogged_extensions :
    let text (s : String) : RoseTree Value := .node (.text s) []
    let t : RoseTree Value := .node .document [.node .paragraph [text "é",
      .node (.extension (.footnoteReference "d")) [], .node (.extension .table) [text "b"]]]
    let f := [Edit.add (.extension .underline) ⟨.last, 2⟩].foldl Forest.edit (Forest.ofTree t)
    let run (text : String) := (roundTripLogged Body.read { strikethrough := true } text).run.run [.rendered 2 0]
    (f.tree? 0).isSome ∧
      (f.rendering 0).reports = [.skipped .other, .skipped .other, .rendered 9 "éb\n".utf8ByteSize] ∧
      (run "---\na: 1\n---\n~~b~~\n").2 = [.rendered 2 0, .divided true 4, .skipped .other, .rendered 7 2] ∧
      (run "---\n[\n---\nb\n").2 = [.rendered 2 0] := by
  intro text t f run
  obtain ⟨tree, found⟩ : ∃ tree, f.tree? 0 = some tree := Option.isSome_iff_exists.mp (by decide +kernel)
  have counts : tree.reached.length + tree.reached.countP RoseTree.opens = 9 := by
    have same : (f.tree? 0).map (fun tree => tree.reached.length + tree.reached.countP RoseTree.opens) = some 9 := by
      decide +kernel
    rwa [found, Option.map_some, Option.some.injEq] at same
  have skipped : (tree.reached.filter (·.kind = .other)).map (fun node => (node.id, Report.skipped .other)) =
      [(3, .skipped .other), (4, .skipped .other)] := by
    have same : (f.tree? 0).map (fun tree => (tree.reached.filter (·.kind = .other)).map
        (fun node => (node.id, Report.skipped .other))) = some [(3, .skipped .other), (4, .skipped .other)] := by
      decide +kernel
    rwa [found, Option.map_some, Option.some.injEq] at same
  have account (input : String) := @reports_roundTripLogged Body.read { strikethrough := true } input [.rendered 2 0] t
    [Edit.add (.extension .underline) ⟨.last, 2⟩] 0 tree
  refine ⟨by rw [found]; rfl, ?_, ?_, ?_⟩
  · obtain ⟨extensions, whole⟩ := (account "").1 found
    rw [whole, extensions, skipped, counts]
    have shown : f.render 0 = "éb\n" := by decide +kernel
    rw [shown]
    rfl
  · obtain ⟨outcome, -, written⟩ := (account "---\na: 1\n---\n~~b~~\n").2.1
    have done : roundTripBy Body.read { strikethrough := true } "---\na: 1\n---\n~~b~~\n" = .ok "---\na: 1\n---\nb\n" :=
      eq_ok_of_toOption (by decide +kernel)
    refine (written _ (outcome.trans done)).trans ?_
    decide +kernel
  · obtain ⟨outcome, refused, -⟩ := (account "---\n[\n---\nb\n").2.1
    have fails : (roundTripBy Body.read { strikethrough := true } "---\n[\n---\nb\n").toOption = none := by decide +kernel
    cases done : roundTripBy Body.read { strikethrough := true } "---\n[\n---\nb\n" with
    | error cause => exact refused cause (outcome.trans done)
    | ok out =>
      rw [done] at fails
      cases fails

end Document

end Frontmark
