import Frontmark.Proofs.CommandLine.Effects
import Mathlib.Data.List.Perm.Basic

/-! The default command. A call that names no command is one of the round trip.

Whether a command is named is asked of all arguments alike, also of those that are the value of an option. Main
statement: the call runs as if the command stood in front of it exactly if none of its arguments is the name of a
command (`run_default_iff`). -/

set_option autoImplicit false

namespace Frontmark.CommandLine

/-- What can be said to a round trip: its input, and the files for its output and its settings. -/
inductive Part where
  | input (path : String)
  | output (path : String)
  | settings (path : String)
  deriving DecidableEq, Repr

namespace Part

def path : Part → String
  | input path | output path | settings path => path

def argument : Part → Argument
  | input _ => CommandLine.input
  | output _ => CommandLine.output
  | settings _ => configuration

/-- How it is said. -/
def words : Part → List String
  | input path => [path]
  | output path => ["-o", path]
  | settings path => ["--config", path]

def value (p : Part) : Argument × String :=
  (p.argument, p.path)

end Part

/-- Nothing waits for a value, and hyphens are not yet out of use. -/
structure State.Idle (s : State) : Prop where
  still : s.waiting? = none
  before : s.onlyPositional = false

theorem shape_of_startsWith {argument : String} (plain : argument.startsWith "-" = false) : shape argument = .plain := by
  have other (rest : List Char) : argument.toList ≠ '-' :: rest := by
    intro same
    have first : "-".toList <+: argument.toList := same ▸ ⟨rest, rfl⟩
    rw [String.startsWith_string_iff.mpr first] at plain
    cases plain
  unfold shape
  split
  · next same => exact absurd same (other _)
  · next same => exact absurd same (other _)
  · rfl
  · next same => exact absurd same (other _)
  · rfl

section Accepted

variable {s : State} {parts : List Part}

theorem Proper.left {vs ws : Values} (proper : Proper (vs ++ ws)) : Proper vs := by
  refine ⟨proper.1.sublist ((List.sublist_append_left vs ws).map _), fun x member => proper.2 x ?_⟩
  exact List.mem_append_left _ member

theorem proper_map_value (distinct : (parts.map Part.argument).Nodup) : Proper (parts.map Part.value) := by
  refine ⟨by simpa [Part.value, Function.comp_def] using distinct, fun x member => ?_⟩
  obtain ⟨p, -, rfl⟩ := List.mem_map.mp member
  cases p <;> exact .inl rfl

theorem called?_roundTripCommand (s : State) (argument : String) : s.called? roundTripCommand argument = none := by
  simp [State.called?, Command.subcommand?, roundTripCommand]

/-- The round trip takes what is said to it. Its input is the one argument that is known by its place. -/
theorem steps_words {p : Part} (idle : s.Idle) (proper : Proper s.all) (place : p.argument = input → s.places = 0)
    (plain : p.path.startsWith "-" = false) :
    ∃ next, Steps roundTripCommand s p.words next ∧ next.Idle ∧ next.all = s.all ++ [p.value] ∧
      (p.argument ≠ input → next.places = s.places) := by
  have form := shape_of_startsWith plain
  cases p with
  | input path =>
    have here : roundTripCommand.positionals[s.places]? = some input := by
      rw [place rfl]
      rfl
    have step := Step.positional (.inr form) here idle.still proper
    exact ⟨_, .cons (called?_roundTripCommand _ _) step (.nil _), ⟨rfl, idle.before⟩, rfl, fun other => absurd rfl other⟩
  | output path =>
    have step : Step roundTripCommand s "-o" _ := .option idle.before rfl idle.still proper
    exact ⟨_, .cons (called?_roundTripCommand _ _) step
      (.cons (called?_roundTripCommand _ _) (.value idle.before form rfl) (.nil _)), ⟨rfl, idle.before⟩, rfl, fun _ => rfl⟩
  | settings path =>
    have step : Step roundTripCommand s "--config" _ := .option idle.before rfl idle.still proper
    exact ⟨_, .cons (called?_roundTripCommand _ _) step
      (.cons (called?_roundTripCommand _ _) (.value idle.before form rfl) (.nil _)), ⟨rfl, idle.before⟩, rfl, fun _ => rfl⟩

/-- All that is said is taken, in whatever order, if nothing is said twice. -/
theorem steps_flatMap_words (idle : s.Idle) (proper : Proper (s.all ++ parts.map Part.value))
    (place : input ∈ parts.map Part.argument → s.places = 0) (plain : ∀ p ∈ parts, p.path.startsWith "-" = false) :
    ∃ after, Steps roundTripCommand s (parts.flatMap Part.words) after ∧ after.Idle ∧
      after.all = s.all ++ parts.map Part.value := by
  induction parts generalizing s with
  | nil => exact ⟨s, .nil s, idle, (List.append_nil _).symm⟩
  | cons p parts ih =>
    obtain ⟨first, plain⟩ := List.forall_mem_cons.mp plain
    obtain ⟨next, steps, idle', all, places⟩ := steps_words idle proper.left
      (fun same => place (by simp [same])) first
    have whole : s.all ++ (p :: parts).map Part.value = next.all ++ parts.map Part.value := by simp [all]
    have place' : input ∈ parts.map Part.argument → next.places = 0 := by
      intro later
      have other : p.argument ≠ input := by
        intro same
        have distinct := proper.1
        simp only [List.map_append, List.map_cons, List.nodup_append, List.nodup_cons] at distinct
        refine distinct.2.1.1 ?_
        simpa [Part.value, Function.comp_def, same] using later
      rw [places other, place (by simp [later])]
    rw [whole] at proper ⊢
    obtain ⟨after, steps', idle'', all'⟩ := ih idle' proper place' plain
    exact ⟨after, steps.append steps', idle'', all'⟩

/-- What is said makes a round trip if it says what its input is. -/
theorem readFrom_flatMap_words (distinct : (parts.map Part.argument).Nodup) (plain : ∀ p ∈ parts, p.path.startsWith "-" = false)
    {path : String} (member : .input path ∈ parts) :
    readFrom roundTripCommand {} (parts.flatMap Part.words) =
      .ok [(roundTripCommand.name, parts.map Part.value)] := by
  have proper := proper_map_value distinct
  obtain ⟨after, steps, idle, all⟩ := steps_flatMap_words (s := {}) ⟨rfl, rfl⟩ proper (fun _ => rfl) plain
  have stored : after.all = parts.map Part.value := all
  rw [readFrom_eq_ok_iff roundTripCommand_valued proper_nil, ← stored]
  refine .alone steps ⟨idle.still, stored ▸ proper, fun a known required => ?_, .inr (.inr rfl)⟩
  have only : a = input := by
    simp only [roundTripCommand, List.mem_cons, List.not_mem_nil, or_false] at known
    obtain rfl | rfl | rfl | rfl := known
    · rfl
    · cases required
    · cases required
    · cases required
  rw [stored, only]
  exact List.mem_map.mpr ⟨_, List.mem_map_of_mem member, rfl⟩

end Accepted

section Refused

variable {s : State} {parts : List Part}

/-- Reasons to stop that are the caller's fault. -/
def Complains {α : Type} (x : Reading α) : Prop :=
  ∃ c, x = .error (.complaint c)

theorem Complains.bind {α β : Type} {x : Reading α} (complains : Complains x) (next : α → Reading β) : Complains (x >>= next) := by
  obtain ⟨c, rfl⟩ := complains
  exact ⟨c, rfl⟩

theorem complains_orStop_or (result : State × Option Complaint) :
    Complains (orStop result) ∨ orStop result = .ok result.1 := by
  obtain ⟨s, _ | c⟩ := result
  · exact .inr rfl
  · exact .inl ⟨c, rfl⟩

theorem complains_noPlace (c : Command) (s : State) (argument : String) : Complains (noPlace c s argument : Reading State) := by
  unfold noPlace
  split_ifs
  · exact ⟨_, rfl⟩
  · exact ⟨_, rfl⟩
  · split <;> exact ⟨_, rfl⟩

theorem onlyPositional_settle (c : Command) (s : State) : (s.settle c).1.onlyPositional = s.onlyPositional := by
  unfold State.settle State.store
  split
  · rfl
  · rfl
  · dsimp only
    split_ifs <;> rfl

/-- The program has options, but no place for an argument. -/
theorem complains_take_input (idle : s.Idle) {path : String} (plain : path.startsWith "-" = false) (rest : List String) :
    Complains (take program s path rest) := by
  have here : program.positionals[s.places]? = none := rfl
  simp only [take, idle.before, shape_of_startsWith plain, idle.still, takePositional, here, Bool.false_eq_true, if_false]
  exact complains_noPlace program s path

theorem complains_take_output (idle : s.Idle) (rest : List String) : Complains (take program s "-o" rest) := by
  have form : shape "-o" = .short ['o'] := rfl
  simp only [take, idle.before, form, Bool.false_eq_true, if_false]
  exact ⟨_, rfl⟩

theorem take_settings (idle : s.Idle) (rest : List String) :
    Complains (take program s "--config" rest) ∨
      ∃ next : State, take program s "--config" rest = .ok next ∧ next.waiting? = some configuration ∧
        next.onlyPositional = false := by
  have form : shape "--config" = .long "config".toList := rfl
  have same : take program s "--config" rest = takeOption program s configuration none := by
    simp only [take, idle.before, form, Bool.false_eq_true, if_false]
    rfl
  rw [same, takeOption]
  obtain complains | stored := complains_orStop_or (s.settle program)
  · exact .inl (complains.bind _)
  · rw [stored]
    exact .inr ⟨_, rfl, rfl, (onlyPositional_settle program s).trans idle.before⟩

theorem take_value {a : Argument} (waits : s.waiting? = some a) (before : s.onlyPositional = false) {path : String}
    (plain : path.startsWith "-" = false) (rest : List String) :
    take program s path rest = .ok { s with pending? := some (a, some path) } := by
  simp only [take, before, shape_of_startsWith plain, waits, Bool.false_eq_true, if_false]

theorem called?_program {argument : String} (other : isCommandName argument = false) (s : State) :
    s.called? program argument = none := by
  have none : program.subcommand? argument = Option.none := by simpa [isCommandName] using other
  rw [State.called?, none, ite_self]

theorem readFrom_of_uncalled {argument : String} (uncalled : s.called? program argument = none) (rest : List String) :
    readFrom program s (argument :: rest) = take program s argument rest >>= fun s => readFrom program s rest := by
  rw [readFrom_cons, uncalled]

/-- Without a command there is no place for an input, and no option for the output. -/
theorem complains_flatMap_words (idle : s.Idle) (plain : ∀ p ∈ parts, p.path.startsWith "-" = false)
    (other : ∀ path, .input path ∈ parts → isCommandName path = false) {path : String} (member : .input path ∈ parts) :
    Complains (readFrom program s (parts.flatMap Part.words)) := by
  induction parts generalizing s with
  | nil => cases member
  | cons p parts ih =>
    obtain ⟨first, rest⟩ := List.forall_mem_cons.mp plain
    cases p with
    | input path =>
      rw [List.flatMap_cons, Part.words, List.singleton_append,
        readFrom_of_uncalled (called?_program (other path List.mem_cons_self) s)]
      exact (complains_take_input idle first _).bind _
    | output path =>
      rw [List.flatMap_cons, Part.words, List.cons_append, readFrom_of_uncalled (called?_program (by decide +kernel) s)]
      exact (complains_take_output idle _).bind _
    | settings path' =>
      rw [List.flatMap_cons, Part.words, List.cons_append, readFrom_of_uncalled (called?_program (by decide +kernel) s),
        List.singleton_append]
      obtain complains | ⟨next, taken, waits, before⟩ := take_settings idle (path' :: parts.flatMap Part.words)
      · exact complains.bind _
      · -- the value is taken whatever it is called, also if it is the name of a command
        have uncalled : next.called? program path' = none := by simp [State.called?, waits]
        have value := take_value waits before (show path'.startsWith "-" = false from first) (parts.flatMap Part.words)
        have complains : Complains (readFrom program { next with pending? := some (configuration, some path') }
            (parts.flatMap Part.words)) :=
          ih ⟨rfl, before⟩ rest (fun path later => other path (List.mem_cons_of_mem _ later)) (by simpa using member)
        rw [taken]
        change Complains (readFrom program next (path' :: parts.flatMap Part.words))
        rw [readFrom_of_uncalled uncalled, value]
        exact complains

end Refused

section Runs

variable {arguments : List String} {f : Folder}

/-- A call that is understood does not end with the status of one that is not. -/
theorem status_run_ne_two {i : Invocation} (called : Invocation.read arguments = .ok i) (f : Folder) :
    (run arguments f).1.status ≠ 2 := by
  have decided : decide f.read arguments = i.decide f.read := by rw [decide, called]
  obtain ⟨message, failed⟩ | ⟨text, printed, -⟩ | ⟨path, p, text, -, write, -⟩ := i.decide_cases f.read
  · rw [run_of_finish (decided.trans failed)]
    exact Nat.ne_of_beq_eq_false rfl
  · rw [run_of_finish (decided.trans printed)]
    exact Nat.ne_of_beq_eq_false rfl
  · simp only [run, decided, write]
    cases f.write p text.toUTF8.toList <;> exact Nat.ne_of_beq_eq_false rfl

theorem any_flatMap_words (parts : List Part) :
    (parts.flatMap Part.words).any isCommandName = parts.any (isCommandName ·.path) := by
  have options : isCommandName "-o" = false ∧ isCommandName "--config" = false := by decide +kernel
  rw [List.any_flatMap]
  congr 1
  funext p
  cases p <;> simp [Part.words, Part.path, options]

/-- What can be said to a round trip with this input, with and without files for its output and its settings. -/
def wholeCall (path : String) (output? settings? : Option String) : List Part :=
  .input path :: (output?.toList.map .output ++ settings?.toList.map .settings)

theorem nodup_wholeCall (path : String) (output? settings? : Option String) :
    ((wholeCall path output? settings?).map Part.argument).Nodup := by
  have different : input ≠ output ∧ input ≠ configuration ∧ output ≠ configuration := by decide
  cases output? <;> cases settings? <;> simp [wholeCall, Part.argument, different]

theorem eq_of_input_mem {path path' : String} {output? settings? : Option String}
    (member : .input path' ∈ wholeCall path output? settings?) : path' = path := by
  simpa [wholeCall] using member

section Default

variable {path : String} {output? settings? : Option String} {parts : List Part}

theorem read_named_eq (order : parts.Perm (wholeCall path output? settings?))
    (plain : ∀ p ∈ parts, p.path.startsWith "-" = false) :
    readFrom roundTripCommand {} (parts.flatMap Part.words) = .ok [(roundTripCommand.name, parts.map Part.value)] ∧
      Invocation.read (roundTripCommand.name :: parts.flatMap Part.words) =
        .ok (Invocation.ofValues [(program.name, []), (roundTripCommand.name, parts.map Part.value)]) := by
  have distinct : (parts.map Part.argument).Nodup := (order.map _).nodup_iff.mpr (nodup_wholeCall path output? settings?)
  have accepted := readFrom_flatMap_words distinct plain (order.mem_iff.mpr List.mem_cons_self)
  refine ⟨accepted, ?_⟩
  rw [Invocation.read, read_roundTrip_cons, accepted]
  rfl

/-- The complaint about a call that seems to name a command is the last word on it. -/
theorem status_run_of_called (order : parts.Perm (wholeCall path output? settings?))
    (plain : ∀ p ∈ parts, p.path.startsWith "-" = false) (other : isCommandName path = false)
    (called : (parts.flatMap Part.words).any isCommandName = true) (f : Folder) :
    (run (parts.flatMap Part.words) f).1.status = 2 := by
  obtain ⟨c, refused⟩ : Complains (readFrom program {} (parts.flatMap Part.words)) :=
    complains_flatMap_words ⟨rfl, rfl⟩ plain (fun path' there => eq_of_input_mem (order.mem_iff.mp there) ▸ other)
      (order.mem_iff.mpr List.mem_cons_self)
  have read : Invocation.read (parts.flatMap Part.words) = .error (.complaint c) := by
    rw [Invocation.read, CommandLine.read, refused, called]
    rfl
  rw [run_of_finish (o := (Stop.complaint c).outcome) (by rw [decide, read])]
  rfl

/-- A call of an input that names no command, with its options in any order, runs as the call of the round trip does
with the same arguments, whatever files there are, exactly if no file that it names has the name of a command. -/
theorem run_default_iff (order : parts.Perm (wholeCall path output? settings?))
    (plain : ∀ p ∈ parts, p.path.startsWith "-" = false) (other : isCommandName path = false) (f : Folder) :
    run (parts.flatMap Part.words) f = run (roundTripCommand.name :: parts.flatMap Part.words) f ↔
      ∀ p ∈ parts, isCommandName p.path = false := by
  obtain ⟨accepted, named⟩ := read_named_eq order plain
  constructor
  · intro same
    by_contra! calls
    have called : (parts.flatMap Part.words).any isCommandName = true := by
      rw [any_flatMap_words, List.any_eq_true]
      simpa using calls
    exact status_run_ne_two named f (same ▸ status_run_of_called order plain other called f)
  · intro names
    have uncalled : (parts.flatMap Part.words).any isCommandName = false := by
      rw [any_flatMap_words, List.any_eq_false]
      simpa using names
    have member : .input path ∈ parts := order.mem_iff.mpr List.mem_cons_self
    have first : path.startsWith "-" = false := plain _ member
    have positional : (parts.flatMap Part.words).all (·.startsWith "-") = false :=
      List.all_eq_false.mpr ⟨path, List.mem_flatMap.mpr ⟨_, member, List.mem_singleton_self path⟩, by rw [first]; decide⟩
    have read := (Invocation.read_of_default uncalled positional accepted).trans named.symm
    rw [run, run, decide, decide, read]

end Default

/-- The options stand around the input. -/
theorem run_default_iff_around :
    let f : Folder := .ofFiles [("a.md", "\"a\"\n".toUTF8.toList), ("b.toml", "[parser]\nsmart = true\n".toUTF8.toList)]
    let parts : List Part := [.settings "b.toml", .input "a.md", .output "p"]
    parts.Perm (wholeCall "a.md" "p" "b.toml") ∧ (∀ p ∈ parts, p.path.startsWith "-" = false) ∧
      isCommandName "a.md" = false ∧ (run (parts.flatMap Part.words) f).2.content? ["p"] = some "“a”\n".toUTF8.toList ∧
      run (parts.flatMap Part.words) f = run (roundTripCommand.name :: parts.flatMap Part.words) f := by
  intro f parts
  have order : parts.Perm (wholeCall "a.md" "p" "b.toml") := by decide +kernel
  have plain : ∀ p ∈ parts, p.path.startsWith "-" = false := by decide +kernel
  have other : isCommandName "a.md" = false := by decide +kernel
  exact ⟨order, plain, other, by decide +kernel, (run_default_iff order plain other f).mpr (by decide +kernel)⟩

/-- A file for the output that has the name of a command is taken for the command. -/
theorem run_default_refused :
    let f : Folder := .ofFiles [("a.md", "a\n".toUTF8.toList)]
    let parts : List Part := [.input "a.md", .output "header"]
    parts.Perm (wholeCall "a.md" "header" none) ∧ (∀ p ∈ parts, p.path.startsWith "-" = false) ∧ isCommandName "a.md" = false ∧
      (run (parts.flatMap Part.words) f).1.status = 2 ∧
      (run (roundTripCommand.name :: parts.flatMap Part.words) f).1.status = 0 := by
  decide +kernel

end Runs

end Frontmark.CommandLine
