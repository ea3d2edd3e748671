import Frontmark.CommandLine.Reader
import Frontmark.Proofs.Except
import Mathlib.Data.List.Basic

/-! What reading arguments comes to, argument by argument.

Main statement: arguments are accepted exactly if every one of them is a step from one state to another, up to the
end or to the name of a subcommand that accepts the others (`readFrom_eq_ok_iff`). The command's options all have values. -/

set_option autoImplicit false

namespace Frontmark.CommandLine

/-- Values that can be stored together. -/
def Proper (vs : Values) : Prop :=
  (vs.map (·.1)).Nodup ∧ ∀ x ∈ vs, x.1.values = [] ∨ x.2 ∈ x.1.values

namespace State

/-- What is stored, and what is pending with its value. -/
def all (s : State) : Values :=
  s.found ++
    match s.pending? with
    | some (a, some value) => [(a, value)]
    | _ => []

def settled (s : State) : State :=
  { s with found := s.all, pending? := none }

@[simp] theorem all_stored (found : Values) (places : Nat) (only : Bool) : all ⟨found, none, places, only⟩ = found :=
  List.append_nil found

@[simp] theorem all_waiting (found : Values) (a : Argument) (places : Nat) (only : Bool) :
    all ⟨found, some (a, none), places, only⟩ = found :=
  List.append_nil found

@[simp] theorem all_pending (found : Values) (a : Argument) (value : String) (places : Nat) (only : Bool) :
    all ⟨found, some (a, some value), places, only⟩ = found ++ [(a, value)] :=
  rfl

/-- The subcommand that an argument calls. -/
def called? (s : State) (c : Command) (argument : String) : Option Command :=
  if s.onlyPositional || s.waiting?.isSome then none else c.subcommand? argument

end State

/-- What stands behind the letter of an option. -/
def valueBehind? : List Char → Option String
  | [] => none
  | '=' :: value => some (String.ofList value)
  | value => some (String.ofList value)

/-- The option with a value that an argument names, and its value if that is in the same argument. -/
def optionOf? (c : Command) (argument : String) : Option (Argument × Option String) :=
  let named? :=
    match shape argument with
    | .long text =>
      (c.long? (String.ofList (text.takeWhile (· ≠ '=')))).map (·, ((text.dropWhile (· ≠ '=')).tail?).map String.ofList)
    | .short (x :: rest) => (c.short? x).map (·, valueBehind? rest)
    | _ => none
  named?.filter fun (a, _) => a.form matches .option _

/-- What one argument, which calls no subcommand, makes of a state. -/
inductive Step (c : Command) : State → String → State → Prop
  | hyphens {s : State} {argument : String} (before : s.onlyPositional = false) (two : shape argument = .hyphens) :
      Step c s argument { s with onlyPositional := true }
  | value {s : State} {argument : String} {a : Argument} (before : s.onlyPositional = false) (plain : shape argument = .plain)
      (waiting : s.waiting? = some a) : Step c s argument { s with pending? := some (a, some argument) }
  | positional {s : State} {argument : String} {a : Argument} (before : s.onlyPositional = true ∨ shape argument = .plain)
      (here : c.positionals[s.places]? = some a) (still : s.waiting? = none) (proper : Proper s.all) :
      Step c s argument { s.settled with pending? := some (a, some argument), places := s.places + 1 }
  | option {s : State} {argument : String} {a : Argument} (before : s.onlyPositional = false)
      (named : optionOf? c argument = some (a, none)) (still : s.waiting? = none) (proper : Proper s.all) :
      Step c s argument { s.settled with pending? := some (a, none) }
  | optionValue {s : State} {argument : String} {a : Argument} {value : String} (before : s.onlyPositional = false)
      (named : optionOf? c argument = some (a, some value)) (still : s.waiting? = none)
      (proper : Proper (s.all ++ [(a, value)])) : Step c s argument { s.settled with found := s.all ++ [(a, value)] }

inductive Steps (c : Command) : State → List String → State → Prop
  | nil (s : State) : Steps c s [] s
  | cons {s next after : State} {argument : String} {rest : List String} (called : s.called? c argument = none)
      (step : Step c s argument next) (steps : Steps c next rest after) : Steps c s (argument :: rest) after

/-- Commands whose options all have values, except for those that show something. -/
def Command.Valued (c : Command) : Prop :=
  ∀ a ∈ c.options, (a.form = .help ∨ a.form = .version) ∨ ∃ value, a.form = .option value

section Storing

variable {c : Command} {s u : State} {a : Argument} {value : String}

theorem proper_concat {vs : Values} :
    Proper (vs ++ [(a, value)]) ↔ Proper vs ∧ a ∉ vs.map (·.1) ∧ (a.values = [] ∨ value ∈ a.values) := by
  simp only [Proper, List.map_append, List.map_cons, List.map_nil, List.nodup_append, List.forall_mem_append,
    List.forall_mem_singleton]
  grind

theorem store_eq_none_iff :
    s.store c a value = (u, none) ↔
      a ∉ s.found.map (·.1) ∧ (a.values = [] ∨ value ∈ a.values) ∧ u = { s with found := s.found ++ [(a, value)] } := by
  unfold State.store State.arguments
  by_cases there : a ∈ s.found.map (·.1)
  · rw [if_pos (List.contains_iff_mem.mpr there)]
    simp [there]
  · rw [if_neg (mt List.contains_iff_mem.mp there)]
    by_cases allowed : a.values = [] ∨ value ∈ a.values
    · simpa [there, allowed] using eq_comm
    · simp [there, allowed]

theorem orStop_eq_ok_iff {result : State × Option Complaint} : orStop result = .ok u ↔ result = (u, none) := by
  obtain ⟨s, _ | complaint⟩ := result <;> simp [orStop]

/-- What is stored stays proper, and nothing else can be stored. -/
theorem settle_eq_none_iff (proper : Proper s.found) :
    s.settle c = (u, none) ↔ s.waiting? = none ∧ Proper s.all ∧ u = s.settled := by
  obtain ⟨found, pending, places, only⟩ := s
  obtain _ | ⟨a, _ | value⟩ := pending
  · simpa [State.settle, State.waiting?, State.settled, proper] using eq_comm
  · simp [State.settle, State.waiting?]
  · simp [State.settle, State.waiting?, State.settled, store_eq_none_iff, proper_concat, proper, and_assoc]

/-- Whatever is done next, what is pending is stored first. -/
theorem settle_bind_eq_ok_iff (proper : Proper s.found) {α : Type} {next : State → Reading α} {x : α} :
    (orStop (s.settle c) >>= next) = .ok x ↔ s.waiting? = none ∧ Proper s.all ∧ next s.settled = .ok x := by
  cases result : orStop (s.settle c) with
  | error stop =>
    refine iff_of_false nofun fun ⟨still, all, _⟩ => ?_
    rw [orStop_eq_ok_iff.mpr ((settle_eq_none_iff proper).mpr ⟨still, all, rfl⟩)] at result
    cases result
  | ok u =>
    obtain ⟨still, all, rfl⟩ := (settle_eq_none_iff proper).mp (orStop_eq_ok_iff.mp result)
    exact ⟨fun ok => ⟨still, all, ok⟩, fun ⟨_, _, ok⟩ => ok⟩

end Storing

/-- Take an argument that calls no subcommand. -/
def take (c : Command) (s : State) (argument : String) (rest : List String) : Reading State :=
  if s.onlyPositional then takePositional c s argument
  else
    match shape argument, s.waiting? with
    | .hyphens, _ => .ok { s with onlyPositional := true }
    | .long text, _ => takeLong c s text rest
    | .short letters, _ => takeShort c s letters
    | .plain, some a => .ok { s with pending? := some (a, some argument) }
    | .plain, none => takePositional c s argument

theorem readFrom_cons (c : Command) (s : State) (argument : String) (rest : List String) :
    readFrom c s (argument :: rest) =
      match s.called? c argument with
      | some sub =>
        if sub.name = helpCommand then .error (helpOn c rest)
        else do
          let inner ← readFrom sub {} rest
          return (c.name, ← finish c s true) :: inner
      | none => take c s argument rest >>= fun s => readFrom c s rest := by
  rw [readFrom, take, State.called?]
  cases s.onlyPositional with
  | true => rfl
  | false =>
    simp only [Bool.false_eq_true, if_false, Bool.false_or]
    cases found : (if s.waiting?.isSome then none else c.subcommand? argument) with
    | some sub => rfl
    | none => cases shape argument <;> cases s.waiting? <;> rfl

section Taking

variable {c : Command} {s next : State} {argument : String} {rest : List String}

theorem noPlace_ne_ok : noPlace c s argument ≠ .ok next := by
  unfold noPlace
  split_ifs
  · exact nofun
  · exact nofun
  · split <;> exact nofun

theorem takePositional_eq_ok_iff (proper : Proper s.found) :
    takePositional c s argument = .ok next ↔
      ∃ a, c.positionals[s.places]? = some a ∧ s.waiting? = none ∧ Proper s.all ∧
        { s.settled with pending? := some (a, some argument), places := s.places + 1 } = next := by
  unfold takePositional
  cases here : c.positionals[s.places]? with
  | none => simpa using noPlace_ne_ok
  | some a =>
    rw [settle_bind_eq_ok_iff proper]
    simp [pure, Except.pure, State.settled]

theorem takeOption_eq_ok_iff (proper : Proper s.found) {a : Argument} {value? : Option String} :
    takeOption c s a value? = .ok next ↔
      s.waiting? = none ∧
        match value? with
        | none => Proper s.all ∧ { s.settled with pending? := some (a, none) } = next
        | some value => Proper (s.all ++ [(a, value)]) ∧ { s.settled with found := s.all ++ [(a, value)] } = next := by
  rw [takeOption, settle_bind_eq_ok_iff proper]
  cases value? with
  | none => simp [pure, Except.pure]
  | some value =>
    simp only [orStop_eq_ok_iff, store_eq_none_iff, proper_concat, State.settled, and_assoc]
    rw [eq_comm (a := next)]

theorem exists_takeFlag_eq {a : Argument} (shows : a.form = .help ∨ a.form = .version) (length : Length) :
    ∃ stop, takeFlag c s a length = .error stop := by
  unfold takeFlag
  cases orStop (s.settle c) with
  | error stop => exact ⟨stop, rfl⟩
  | ok s => obtain form | form := shows <;> simp [form, bind, Except.bind]

theorem unknownOption_ne_ok {name : String} : unknownOption c s name rest ≠ .ok next := by
  unfold unknownOption
  dsimp only
  split
  · exact nofun
  · split <;> exact nofun

theorem takeLong_eq_ok_iff (valued : c.Valued) {text : List Char} (long : shape argument = .long text) :
    takeLong c s text rest = .ok next ↔
      ∃ a value?, optionOf? c argument = some (a, value?) ∧ takeOption c s a value? = .ok next := by
  unfold takeLong optionOf?
  simp only [long]
  cases found : c.long? (String.ofList (text.takeWhile (· ≠ '='))) with
  | none => simpa using unknownOption_ne_ok
  | some a =>
    obtain shows | ⟨value, form⟩ := valued a (List.mem_of_find?_eq_some found)
    · obtain ⟨stop, same⟩ := exists_takeFlag_eq (c := c) (s := s) shows .long
      obtain form | form := shows <;> cases ((text.dropWhile (· ≠ '=')).tail?).map String.ofList <;>
        simp [form, same, refuse]
    · simp [form]

theorem exists_letter {letters : List Char} (short : shape argument = .short letters) : ∃ x rest, letters = x :: rest := by
  cases letters with
  | cons x rest => exact ⟨x, rest, rfl⟩
  | nil =>
    unfold shape at short
    split at short <;> simp_all

theorem takeShort_eq_ok_iff (valued : c.Valued) {letters : List Char} (short : shape argument = .short letters) :
    takeShort c s letters = .ok next ↔
      ∃ a value?, optionOf? c argument = some (a, value?) ∧ takeOption c s a value? = .ok next := by
  obtain ⟨x, rest, rfl⟩ := exists_letter short
  unfold takeShort optionOf?
  simp only [short]
  cases found : c.short? x with
  | none => simp [refuse]
  | some a =>
    obtain shows | ⟨value, form⟩ := valued a (List.mem_of_find?_eq_some found)
    · obtain ⟨stop, same⟩ := exists_takeFlag_eq (c := c) (s := s) shows .short
      obtain form | form := shows <;> simp [form, same, bind, Except.bind]
    · simp only [form, Option.map_some, Option.filter_some_pos]
      constructor
      · exact fun ok => ⟨a, valueBehind? rest, rfl, ok⟩
      · rintro ⟨_, _, named, ok⟩
        cases named
        exact ok

/-- The steps that options make. -/
theorem exists_takeOption_iff (proper : Proper s.found) (before : s.onlyPositional = false)
    (other : shape argument ≠ .plain) (other' : shape argument ≠ .hyphens) :
    (∃ a value?, optionOf? c argument = some (a, value?) ∧ takeOption c s a value? = .ok next) ↔ Step c s argument next := by
  constructor
  · rintro ⟨a, value?, named, ok⟩
    obtain ⟨still, ok⟩ := (takeOption_eq_ok_iff proper).mp ok
    cases value? with
    | none =>
      obtain ⟨all, rfl⟩ := ok
      exact .option before named still all
    | some value =>
      obtain ⟨all, rfl⟩ := ok
      exact .optionValue before named still all
  · intro step
    cases step with
    | hyphens _ two => exact absurd two other'
    | value _ plain => exact absurd plain other
    | positional before' => simp [before, other] at before'
    | option _ named still all => exact ⟨_, _, named, (takeOption_eq_ok_iff proper).mpr ⟨still, all, rfl⟩⟩
    | optionValue _ named still all => exact ⟨_, _, named, (takeOption_eq_ok_iff proper).mpr ⟨still, all, rfl⟩⟩

theorem optionOf?_eq_none (none : shape argument = .plain ∨ shape argument = .hyphens) : optionOf? c argument = Option.none := by
  obtain form | form := none <;> simp [optionOf?, form]

/-- What the step of an option comes to. -/
theorem Step.of_optionOf? (step : Step c s argument next) (before : s.onlyPositional = false) {a : Argument}
    {value? : Option String} (named : optionOf? c argument = some (a, value?)) :
    next.onlyPositional = false ∧ next.waiting? = (if value?.isSome then none else some a) ∧
      next.all = s.all ++ (value?.map (a, ·)).toList := by
  cases step with
  | hyphens _ two => simp [optionOf?_eq_none (.inr two)] at named
  | value _ plain => simp [optionOf?_eq_none (.inl plain)] at named
  | positional before' =>
    obtain before' | plain := before'
    · simp [before] at before'
    · simp [optionOf?_eq_none (.inl plain)] at named
  | option _ named' =>
    obtain ⟨⟩ := named.symm.trans named'
    exact ⟨before, rfl, by simp [State.settled]⟩
  | optionValue _ named' =>
    obtain ⟨⟩ := named.symm.trans named'
    exact ⟨before, rfl, by simp [State.settled]⟩

theorem takePositional_iff_step (proper : Proper s.found)
    (before : s.onlyPositional = true ∨ shape argument = .plain ∧ s.waiting? = none) :
    takePositional c s argument = .ok next ↔ Step c s argument next := by
  rw [takePositional_eq_ok_iff proper]
  constructor
  · rintro ⟨a, here, still, all, rfl⟩
    exact .positional (before.imp_right And.left) here still all
  · intro step
    cases step with
    | hyphens before' two => simp [before', two] at before
    | value before' plain waiting => simp [before', waiting] at before
    | positional _ here still all => exact ⟨_, here, still, all, rfl⟩
    | option before' named | optionValue before' named =>
      obtain before | ⟨plain, -⟩ := before
      · simp [before'] at before
      · simp [optionOf?_eq_none (.inl plain)] at named

theorem step_hyphens_iff (before : s.onlyPositional = false) (two : shape argument = .hyphens) :
    Step c s argument next ↔ { s with onlyPositional := true } = next := by
  constructor
  · intro step
    cases step with
    | hyphens => rfl
    | value _ plain => simp [two] at plain
    | positional before' => simp [before, two] at before'
    | option _ named | optionValue _ named => simp [optionOf?_eq_none (.inr two)] at named
  · rintro rfl
    exact .hyphens before two

theorem step_value_iff {a : Argument} (before : s.onlyPositional = false) (plain : shape argument = .plain)
    (waiting : s.waiting? = some a) :
    Step c s argument next ↔ { s with pending? := some (a, some argument) } = next := by
  constructor
  · intro step
    cases step with
    | hyphens _ two => simp [plain] at two
    | value _ _ waiting' =>
      cases waiting.symm.trans waiting'
      rfl
    | positional _ _ still => simp [waiting] at still
    | option _ named | optionValue _ named => simp [optionOf?_eq_none (.inl plain)] at named
  · rintro rfl
    exact .value before plain waiting

/-- An argument is taken exactly if it makes a step. -/
theorem take_eq_ok_iff (valued : c.Valued) (proper : Proper s.found) :
    take c s argument rest = .ok next ↔ Step c s argument next := by
  unfold take
  by_cases only : s.onlyPositional = true
  · rw [if_pos only]
    exact takePositional_iff_step proper (.inl only)
  · rw [if_neg only]
    have before : s.onlyPositional = false := by simpa using only
    cases form : shape argument with
    | hyphens => rw [step_hyphens_iff before form, Except.ok.injEq]
    | plain =>
      cases waiting : s.waiting? with
      | none => exact takePositional_iff_step proper (.inr ⟨form, waiting⟩)
      | some a => rw [step_value_iff before form waiting, Except.ok.injEq]
    | long text =>
      have other : shape argument ≠ .plain ∧ shape argument ≠ .hyphens := by simp [form]
      exact (takeLong_eq_ok_iff valued form).trans (exists_takeOption_iff proper before other.1 other.2)
    | short letters =>
      have other : shape argument ≠ .plain ∧ shape argument ≠ .hyphens := by simp [form]
      exact (takeShort_eq_ok_iff valued form).trans (exists_takeOption_iff proper before other.1 other.2)

end Taking

section Reading

variable {c : Command} {s next after : State} {argument : String} {rest arguments : List String}

theorem Step.proper (step : Step c s argument next) (proper : Proper s.found) : Proper next.found := by
  cases step with
  | hyphens | value => exact proper
  | positional _ _ _ all | option _ _ _ all | optionValue _ _ _ all => exact all

theorem Steps.proper (steps : Steps c s arguments after) (proper : Proper s.found) : Proper after.found := by
  induction steps with
  | nil => exact proper
  | cons _ step _ ih => exact ih (step.proper proper)

/-- The values that a command has in the end: all of those that it needs, and something at all if nothing is called. -/
structure Complete (c : Command) (s : State) (hasSubcommand : Bool) : Prop where
  still : s.waiting? = none
  proper : Proper s.all
  required : ∀ a ∈ c.arguments, a.isRequired = true → a ∈ s.all.map (·.1)
  some_ : hasSubcommand = true ∨ s.all ≠ [] ∨ c.subcommands = []

theorem finish_eq_ok_iff (proper : Proper s.found) {hasSubcommand : Bool} {vs : Values} :
    finish c s hasSubcommand = .ok vs ↔ Complete c s hasSubcommand ∧ s.all = vs := by
  rw [finish, settle_bind_eq_ok_iff proper]
  have some_ : ((!hasSubcommand && s.settled.found.isEmpty && !c.subcommands.isEmpty) = true) ↔
      ¬ (hasSubcommand = true ∨ s.all ≠ [] ∨ c.subcommands = []) := by
    simp [State.settled, and_assoc]
  have required : ((c.arguments.filter fun a => a.isRequired && !s.settled.arguments.contains a).isEmpty = true) ↔
      ∀ a ∈ c.arguments, a.isRequired = true → a ∈ s.all.map (·.1) := by
    simp [State.settled, State.arguments]
  dsimp only
  split_ifs with bare missing
  · exact iff_of_false nofun fun complete => some_.mp bare complete.1.some_
  · constructor
    · rintro ⟨still, all, ⟨⟩⟩
      exact ⟨⟨still, all, required.mp missing, not_not.mp (mt some_.mpr bare)⟩, rfl⟩
    · rintro ⟨complete, rfl⟩
      exact ⟨complete.still, complete.proper, rfl⟩
  · exact iff_of_false nofun fun complete => missing (required.mpr complete.1.required)

/-- Reading arguments that call no subcommand. -/
theorem readFrom_append (valued : c.Valued) (proper : Proper s.found) (steps : Steps c s arguments after)
    (rest : List String) : readFrom c s (arguments ++ rest) = readFrom c after rest := by
  induction steps with
  | nil => rfl
  | cons called step _ ih =>
    rw [List.cons_append, readFrom_cons, called]
    dsimp only
    rw [(take_eq_ok_iff valued proper).mpr step]
    exact ih (step.proper proper)

/-- Arguments that make a call of a command, alone or with one of its subcommands. -/
inductive Accepts (c : Command) (s : State) : List String → List (String × Values) → Prop
  | alone {arguments : List String} {after : State} (steps : Steps c s arguments after) (complete : Complete c after false) :
      Accepts c s arguments [(c.name, after.all)]
  | calling {before others : List String} {argument : String} {after : State} {sub : Command}
      {inner : List (String × Values)} (steps : Steps c s before after) (called : after.called? c argument = some sub)
      (notHelp : sub.name ≠ helpCommand) (complete : Complete c after true) (accepted : readFrom sub {} others = .ok inner) :
      Accepts c s (before ++ argument :: others) ((c.name, after.all) :: inner)

theorem accepts_of_readFrom (valued : c.Valued) (proper : Proper s.found) {found : List (String × Values)}
    (ok : readFrom c s arguments = .ok found) : Accepts c s arguments found := by
  induction arguments generalizing s with
  | nil =>
    obtain ⟨vs, ended, ⟨⟩⟩ := exists_of_bind_eq_ok ok
    obtain ⟨complete, rfl⟩ := (finish_eq_ok_iff proper).mp ended
    exact .alone (.nil s) complete
  | cons argument rest ih =>
    rw [readFrom_cons] at ok
    cases called : s.called? c argument with
    | some sub =>
      simp only [called] at ok
      split_ifs at ok with help
      obtain ⟨inner, accepted, ok⟩ := exists_of_bind_eq_ok ok
      obtain ⟨vs, ended, ⟨⟩⟩ := exists_of_bind_eq_ok ok
      obtain ⟨complete, rfl⟩ := (finish_eq_ok_iff proper).mp ended
      exact .calling (.nil s) called help complete accepted
    | none =>
      simp only [called] at ok
      obtain ⟨next, taken, ok⟩ := exists_of_bind_eq_ok ok
      have step := (take_eq_ok_iff valued proper).mp taken
      cases ih (step.proper proper) ok with
      | alone steps complete => exact .alone (.cons called step steps) complete
      | calling steps called' notHelp complete accepted =>
        exact .calling (.cons called step steps) called' notHelp complete accepted

/-- What it takes to be accepted. -/
theorem readFrom_eq_ok_iff (valued : c.Valued) (proper : Proper s.found) {found : List (String × Values)} :
    readFrom c s arguments = .ok found ↔ Accepts c s arguments found := by
  refine ⟨accepts_of_readFrom valued proper, fun accepts => ?_⟩
  cases accepts with
  | alone steps complete =>
    have ended := (finish_eq_ok_iff (steps.proper proper)).mpr ⟨complete, rfl⟩
    rw [← List.append_nil arguments, readFrom_append valued proper steps, readFrom, ended]
    rfl
  | calling steps called notHelp complete accepted =>
    have ended := (finish_eq_ok_iff (steps.proper proper)).mpr ⟨complete, rfl⟩
    rw [readFrom_append valued proper steps, readFrom_cons, called]
    dsimp only
    rw [if_neg notHelp, accepted, ended]
    rfl

end Reading

end Frontmark.CommandLine
