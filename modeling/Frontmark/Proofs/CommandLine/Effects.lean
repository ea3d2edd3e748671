import Frontmark.CommandLine.Run
import Frontmark.Proofs.CommandLine.Calls
import Frontmark.Proofs.Folder

/-! What a run of the program leaves behind.

Main statement: a run that fails leaves no output and changes nothing; one that succeeds either changes nothing, or it
has put into one file what it would have printed (`run_effects`). -/

set_option autoImplicit false

namespace Frontmark.CommandLine

section Failing

variable {α β : Type}

/-- The only way to fail is to say why. -/
def Fails (x : Attempt α) : Prop :=
  ∀ o, x = .error o → ∃ message, o = failure message

theorem fails_ok (a : α) : Fails (.ok a) :=
  nofun

theorem fails_error (message : String) : Fails (.error (failure message) : Attempt α) := by
  rintro _ ⟨⟩
  exact ⟨message, rfl⟩

theorem fails_mapError {ε : Type} (x : Except ε α) (message : ε → String) : Fails (x.mapError fun e => failure (message e)) := by
  cases x with
  | ok a => exact fails_ok a
  | error e => exact fails_error (message e)

theorem Fails.bind {x : Attempt α} {next : α → Attempt β} (first : Fails x) (rest : ∀ a, Fails (next a)) :
    Fails (x >>= next) := by
  cases x with
  | ok a => exact rest a
  | error o =>
    rintro _ ⟨⟩
    exact first o rfl

end Failing

variable {read : FileReader} {o : Options}

theorem fails_document (read : FileReader) (o : Options) (path : String) : Fails (document read o path) :=
  (fails_mapError _ _).bind fun _ => fails_mapError _ _

theorem fails_headerJson (header : String) : Fails (headerJson header) := by
  unfold headerJson
  split
  · exact fails_ok _
  · exact fails_error _
  · exact fails_error _

theorem Task.fails_attempt (read : FileReader) (o : Options) (t : Task) : Fails (t.attempt read o) := by
  cases t with
  | roundTrip path output? =>
    refine (fails_document read o path).bind fun d => ?_
    cases output? <;> exact fails_ok _
  | header path asJson =>
    refine (fails_document read o path).bind fun d => ?_
    cases d.header with
    | none => exact fails_error _
    | some text =>
      cases asJson with
      | true => exact (fails_headerJson text).bind fun _ => fails_ok _
      | false => exact fails_ok _
  | inspect path view => exact (fails_document read o path).bind fun _ => fails_ok _
  | nothing => exact fails_error _

/-- What is not printed is written, and is printed without a file for it. -/
theorem Task.of_attempt {t : Task} {action : Action} (ok : t.attempt read o = .ok action) :
    (∃ text, action = print text ∧ ∀ path p, t ≠ .roundTrip path (some p)) ∨
      ∃ path p text, t = .roundTrip path (some p) ∧ action = .write p text ∧
        (roundTrip path none).attempt read o = .ok (print text) := by
  cases t with
  | roundTrip path output? =>
    obtain ⟨d, here, ok⟩ := exists_of_bind_eq_ok ok
    cases output? with
    | none =>
      cases ok
      exact .inl ⟨_, rfl, nofun⟩
    | some p =>
      cases ok
      refine .inr ⟨path, p, d.toMarkdown, rfl, rfl, ?_⟩
      rw [attempt, here]
      rfl
  | header path asJson =>
    obtain ⟨d, -, ok⟩ := exists_of_bind_eq_ok ok
    cases found : d.header with
    | none => simp [found] at ok
    | some text =>
      simp only [found] at ok
      cases asJson with
      | true =>
        obtain ⟨shown, -, ⟨⟩⟩ := exists_of_bind_eq_ok ok
        exact .inl ⟨_, rfl, nofun⟩
      | false =>
        cases ok
        exact .inl ⟨_, rfl, nofun⟩
  | inspect path view =>
    obtain ⟨d, -, ⟨⟩⟩ := exists_of_bind_eq_ok ok
    exact .inl ⟨_, rfl, nofun⟩
  | nothing => cases ok

/-- What is decided: to end, with output or with an error, or to write what would be printed. -/
theorem Invocation.decide_cases (read : FileReader) (i : Invocation) :
    (∃ message, i.decide read = .finish (failure message)) ∨
      (∃ text, i.decide read = print text ∧ ∀ path p, i.task ≠ .roundTrip path (some p)) ∨
        ∃ path p text, i.task = .roundTrip path (some p) ∧ i.decide read = .write p text ∧
          Invocation.decide read { i with task := .roundTrip path none } = print text := by
  have fails : Fails (options read i >>= fun o => i.task.attempt read o) :=
    (fails_mapError _ _).bind fun o => Task.fails_attempt read o i.task
  cases result : options read i >>= fun o => i.task.attempt read o with
  | error outcome =>
    obtain ⟨message, rfl⟩ := fails outcome result
    exact .inl ⟨message, by rw [Invocation.decide, result]⟩
  | ok action =>
    obtain ⟨o, loaded, attempted⟩ := exists_of_bind_eq_ok result
    have decided : i.decide read = action := by rw [Invocation.decide, result]
    rw [decided]
    obtain ⟨text, rfl, other⟩ | ⟨path, p, text, task, rfl, printed⟩ := Task.of_attempt attempted
    · exact .inr (.inl ⟨text, rfl, other⟩)
    · refine .inr (.inr ⟨path, p, text, task, rfl, ?_⟩)
      have loaded' : options read { i with task := .roundTrip path none } = .ok o := loaded
      rw [Invocation.decide, loaded']
      simp only [bind, Except.bind, printed]

theorem Stop.output_outcome {s : Stop} (failed : s.outcome.status ≠ 0) : s.outcome.output = "" := by
  cases s with
  | help | version => exact absurd rfl failed
  | bare | complaint => rfl

section Runs

variable {arguments : List String} {f : Folder}

theorem run_of_finish {o : Outcome} (decided : decide f.read arguments = .finish o) : run arguments f = (o, f) := by
  rw [run, decided]

/-- The output of a call is in a file, and no other file is changed. It is what the call prints without the option
that names the file. If nothing is left then that could be an input, the command has to be named for it. -/
def Redirects (arguments : List String) (p : String) (f after : Folder) : Prop :=
  ∃ text path before taken rest, after.read p = .ok text.toUTF8.toList ∧ (f.place p).Allows path ∧
    (∀ other, other ≠ path → after.content? other = f.content? other) ∧
    arguments = before ++ taken ++ rest ∧ taken ∈ outputForms p ∧
    run (spelledOut (before ++ rest)) f = ({ output := text }, f)

/-- Arguments that call for a round trip into a file. -/
def Targets (arguments : List String) (p : String) : Prop :=
  ∃ settings? path, Invocation.read arguments = .ok ⟨settings?, .roundTrip path (some p)⟩

theorem redirects_of_write {settings? : Option String} {path p text : String} {after : Folder}
    (called : Invocation.read arguments = .ok ⟨settings?, .roundTrip path (some p)⟩)
    (printed : Invocation.decide f.read ⟨settings?, .roundTrip path none⟩ = print text)
    (written : f.write p text.toUTF8.toList = .ok after) : Redirects arguments p f after := by
  obtain ⟨before, taken, rest, whole, form, shorter⟩ := Invocation.exists_shorter called
  obtain ⟨file, allows, -, others, content⟩ := Folder.of_write written
  refine ⟨text, file, before, taken, rest, content, allows, others, whole, form, run_of_finish ?_⟩
  rw [decide, shorter]
  exact printed

/-- How runs end: without a change, or with what would be printed in a file. -/
theorem run_cases (arguments : List String) (f : Folder) :
    (∃ o, run arguments f = (o, f) ∧ (o.status ≠ 0 → o.output = "") ∧ (o.status = 0 → ∀ p, ¬ Targets arguments p)) ∨
      ∃ p after, run arguments f = ({}, after) ∧ Targets arguments p ∧ Redirects arguments p f after := by
  cases called : Invocation.read arguments with
  | error stop =>
    refine .inl ⟨stop.outcome, run_of_finish (by rw [decide, called]), Stop.output_outcome, fun _ p targets => ?_⟩
    obtain ⟨settings?, path, called'⟩ := targets
    cases called.symm.trans called'
  | ok i =>
    have decided : decide f.read arguments = i.decide f.read := by rw [decide, called]
    obtain ⟨message, failed⟩ | ⟨text, printed, other⟩ | ⟨path, p, text, task, write, printed⟩ := i.decide_cases f.read
    · exact .inl ⟨_, run_of_finish (decided.trans failed), fun _ => rfl, nofun⟩
    · refine .inl ⟨_, run_of_finish (decided.trans printed), fun failed => absurd rfl failed, fun _ p targets => ?_⟩
      obtain ⟨settings?, path, called'⟩ := targets
      cases called.symm.trans called'
      exact other path p rfl
    · obtain ⟨settings?, task⟩ := i
      subst task
      cases result : f.write p text.toUTF8.toList with
      | ok after =>
        refine .inr ⟨p, after, ?_, ⟨settings?, path, called⟩, redirects_of_write called printed result⟩
        simp only [run, decided, write, result]
        rfl
      | error e =>
        refine .inl ⟨written p (.error e), ?_, fun _ => rfl, nofun⟩
        simp only [run, decided, write, result]

/-- A call that fails leaves no output and no change. One that makes a round trip into a file leaves that file; any
other call changes nothing. -/
theorem run_effects (arguments : List String) (f : Folder) :
    ((run arguments f).1.status ≠ 0 → (run arguments f).1.output = "" ∧ (run arguments f).2 = f) ∧
      ((run arguments f).1.status = 0 → ∀ p, Targets arguments p →
        (run arguments f).1.output = "" ∧ Redirects arguments p f (run arguments f).2) ∧
      ((∀ p, ¬ Targets arguments p) → (run arguments f).2 = f) := by
  obtain ⟨o, ended, failed, other⟩ | ⟨p, after, ended, targets, redirects⟩ := run_cases arguments f
  · rw [ended]
    exact ⟨fun bad => ⟨failed bad, rfl⟩, fun good p targets => absurd targets (other good p), fun _ => rfl⟩
  · rw [ended]
    refine ⟨fun bad => absurd rfl bad, fun _ p' targets' => ⟨rfl, ?_⟩, fun none => absurd targets (none p)⟩
    obtain ⟨_, _, called⟩ := targets
    obtain ⟨_, _, called'⟩ := targets'
    cases called.symm.trans called'
    exact redirects

/-- The input is written over with what it becomes. -/
theorem run_effects_self :
    let f : Folder := .ofFiles [("a.md", "_a_\n".toUTF8.toList), ("b.md", [])]
    let arguments := ["a.md", "--output=a.md"]
    (run arguments f).1.status = 0 ∧ Targets arguments "a.md" ∧ (run arguments f).2 ≠ f ∧
      Redirects arguments "a.md" f (run arguments f).2 := by
  intro f arguments
  have good : (run arguments f).1.status = 0 := by decide +kernel
  have targets : Targets arguments "a.md" := ⟨none, "a.md", eq_ok_of_toOption (by decide +kernel)⟩
  exact ⟨good, targets, by decide +kernel, ((run_effects arguments f).2.1 good _ targets).2⟩

/-- A file whose name begins with a hyphen is taken for an input as long as the name of another one is there, even
if that is the one for the output. -/
theorem run_not_printed :
    let f : Folder := .ofFiles [("-x", "a\n".toUTF8.toList)]
    let (redirected, after) := run ["-o", "p", "--", "-x"] f
    let (printed, same) := run ["--", "-x"] f
    Targets ["-o", "p", "--", "-x"] "p" ∧ redirected.status = 0 ∧ after.content? ["p"] = some "a\n".toUTF8.toList ∧
      printed.status = 2 ∧ printed.output = "" ∧ same = f := by
  exact ⟨⟨none, "-x", eq_ok_of_toOption (by decide +kernel)⟩, by decide +kernel⟩

end Runs

end Frontmark.CommandLine
