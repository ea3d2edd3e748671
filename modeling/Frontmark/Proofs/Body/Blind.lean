import Frontmark.Body.Reader

/-! What a body is read as does not depend on what is done about the header.

`Options.validating` sets that one option. Main statement: the reader of bodies does not look at it
(`read_validating`). -/

set_option autoImplicit false

namespace Frontmark

/-- The same options, but for whether headers are checked. -/
def Options.validating (o : Options) (check : Bool) : Options :=
  { o with validateHeader := check }

variable (o : Options) (check : Bool)

namespace Block

theorem Scene.startAll_validating (limit : Nat) (afterText : Bool) (depth : Nat) (s : Scene) :
    Scene.startAll (o.validating check) limit afterText depth s = Scene.startAll o limit afterText depth s := by
  induction limit generalizing afterText depth s with
  | zero => rfl
  | succ limit ih =>
    have first : s.start? (o.validating check) afterText depth = s.start? o afterText depth := rfl
    simp only [Scene.startAll, first, ih]

theorem Reader.readLine_validating (r : Reader) (start : Cursor) (line : List Char) :
    r.readLine (o.validating check) start line = r.readLine o start line := by
  simp only [Reader.readLine, Scene.startAll_validating]

end Block

namespace Inline

variable (refs : Link.References)

theorem State.run_validating (limit : Nat) (s : State) :
    State.run ⟨o.validating check, refs⟩ limit s = State.run ⟨o, refs⟩ limit s := by
  induction limit generalizing s with
  | zero => rfl
  | succ limit ih =>
    have first : s.step ⟨o.validating check, refs⟩ = s.step ⟨o, refs⟩ := rfl
    simp only [State.run, first, ih]

theorem read_validating (quota : Nat) (text : List Char) :
    read ⟨o.validating check, refs⟩ quota text = read ⟨o, refs⟩ quota text := by
  simp only [read, State.run_validating]

end Inline

namespace Body

open Frontmark.Block (Draft)
open Frontmark.Markup (RoseTree Value)

theorem readBlocks_validating (text : List Char) : readBlocks (o.validating check) text = readBlocks o text := by
  simp only [readBlocks, Block.Reader.readLine_validating]

mutual

theorem fill_validating (refs : Link.References) (quota : Nat) : (t : Draft) →
    fill ⟨o.validating check, refs⟩ quota t = fill ⟨o, refs⟩ quota t
  | .node part cs => by
    simp only [fill, Inline.read_validating, fillAmong_validating refs quota cs]

theorem fillAmong_validating (refs : Link.References) (quota : Nat) : (ts : List Draft) →
    fillAmong ⟨o.validating check, refs⟩ quota ts = fillAmong ⟨o, refs⟩ quota ts
  | [] => rfl
  | t :: ts => by
    simp only [fillAmong, fill_validating refs quota t, fillAmong_validating refs _ ts]

end

mutual

theorem joinAll_validating : (t : RoseTree Value) → joinAll (o.validating check) t = joinAll o t
  | .node v cs => by
    have mails : linkMailsIn (o.validating check) = linkMailsIn o := rfl
    simp only [joinAll, joinAmong_validating cs, mails]

theorem joinAmong_validating : (ts : List (RoseTree Value)) → joinAmong (o.validating check) ts = joinAmong o ts
  | [] => rfl
  | t :: ts => by rw [joinAmong, joinAmong, joinAll_validating t, joinAmong_validating ts]

end

theorem read_validating (text : String) : read (o.validating check) text = read o text := by
  simp only [read, readBlocks_validating, fill_validating, tidy, joinAll_validating]
  rfl

end Body

end Frontmark
