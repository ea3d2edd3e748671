import Frontmark.Proofs.CommandLine.Omission

/-! The calls of the program: with and without a file for the output. -/

set_option autoImplicit false

namespace Frontmark.CommandLine

section Commands

theorem roundTripCommand_valued : roundTripCommand.Valued := by
  intro a member
  have options : roundTripCommand.options = [configuration, output, helpFlag] := rfl
  simp only [options, List.mem_cons, List.not_mem_nil, or_false] at member
  obtain rfl | rfl | rfl := member
  · exact .inr ⟨_, rfl⟩
  · exact .inr ⟨_, rfl⟩
  · exact .inl (.inl rfl)

theorem program_valued : program.Valued := by
  intro a member
  have options : program.options = [configuration, helpFlag, versionFlag] := rfl
  simp only [options, List.mem_cons, List.not_mem_nil, or_false] at member
  obtain rfl | rfl | rfl := member
  · exact .inr ⟨_, rfl⟩
  · exact .inl (.inl rfl)
  · exact .inl (.inr rfl)

theorem toList_of_long {argument : String} {text : List Char} (long : shape argument = .long text) :
    argument.toList = '-' :: '-' :: text := by
  unfold shape at long
  split at long <;> simp_all

theorem toList_of_short {argument : String} {letters : List Char} (short : shape argument = .short letters) :
    argument.toList = '-' :: letters := by
  unfold shape at short
  split at short <;> simp_all

/-- How an argument with two hyphens is written, by its name and the value in it. -/
theorem eq_of_long {argument : String} {text : List Char} (long : shape argument = .long text) :
    let name := String.ofList (text.takeWhile (· ≠ '='))
    let value? := ((text.dropWhile (· ≠ '=')).tail?).map String.ofList
    (value? = none ∧ argument = "--" ++ name) ∨ ∃ value, value? = some value ∧ argument = "--" ++ name ++ "=" ++ value := by
  have parts : text.takeWhile (· ≠ '=') ++ text.dropWhile (· ≠ '=') = text := List.takeWhile_append_dropWhile
  have whole : argument.toList = "--".toList ++ text.takeWhile (· ≠ '=') ++ text.dropWhile (· ≠ '=') := by
    rw [toList_of_long long, List.append_assoc, parts]
    rfl
  have sign := List.head?_dropWhile_not (· ≠ '=') text
  cases behind : text.dropWhile (· ≠ '=') with
  | nil => exact .inl ⟨rfl, String.toList_inj.mp (by rw [whole, behind]; simp)⟩
  | cons e value =>
    rw [behind] at sign
    obtain rfl : e = '=' := by simpa using sign
    exact .inr ⟨_, rfl, String.toList_inj.mp (by rw [whole, behind]; simp)⟩

/-- How an option is written by its letter. -/
theorem eq_of_short {argument : String} {x : Char} {rest : List Char} (short : shape argument = .short (x :: rest)) :
    let letter := String.ofList ['-', x]
    (valueBehind? rest = none ∧ argument = letter) ∨
      ∃ value, valueBehind? rest = some value ∧ (argument = letter ++ value ∨ argument = letter ++ "=" ++ value) := by
  intro letter
  have whole := toList_of_short short
  unfold valueBehind?
  split
  · exact .inl ⟨rfl, String.toList_inj.mp (by simp [whole, letter])⟩
  · exact .inr ⟨_, rfl, .inr (String.toList_inj.mp (by simp [whole, letter]))⟩
  · exact .inr ⟨_, rfl, .inl (String.toList_inj.mp (by simp [whole, letter]))⟩

/-- An option is named behind two hyphens, or by its letter behind one. -/
theorem of_optionOf? {c : Command} {argument : String} {a : Argument} {value? : Option String}
    (named : optionOf? c argument = some (a, value?)) :
    a ∈ c.options ∧ (∃ value, a.form = .option value) ∧
      ((∃ text, shape argument = .long text ∧ a.name = String.ofList (text.takeWhile (· ≠ '=')) ∧ c.long? a.name = some a ∧
          value? = ((text.dropWhile (· ≠ '=')).tail?).map String.ofList) ∨
        ∃ x rest, shape argument = .short (x :: rest) ∧ a.short? = some x ∧ c.short? x = some a ∧
          value? = valueBehind? rest) := by
  obtain ⟨here, form⟩ := Option.filter_eq_some_iff.mp named
  have option : ∃ value, a.form = .option value := by
    cases kind : a.form <;> simp_all
  cases kind : shape argument with
  | hyphens | plain => simp [kind] at here
  | long text =>
    simp only [kind] at here
    obtain ⟨b, found, ⟨⟩⟩ := Option.map_eq_some_iff.mp here
    have name : a.name = String.ofList (text.takeWhile (· ≠ '=')) := by simpa using List.find?_some found
    exact ⟨List.mem_of_find?_eq_some found, option, .inl ⟨text, rfl, name, name ▸ found, rfl⟩⟩
  | short letters =>
    obtain ⟨x, rest, rfl⟩ := exists_letter kind
    simp only [kind] at here
    obtain ⟨b, found, ⟨⟩⟩ := Option.map_eq_some_iff.mp here
    have letter : a.short? = some x := by simpa using List.find?_some found
    exact ⟨List.mem_of_find?_eq_some found, option, .inr ⟨x, rest, rfl, letter, found, rfl⟩⟩

/-- The one option with a value that the program has is one of the command as well. -/
theorem optionOf?_program {argument : String} {a : Argument} {value? : Option String}
    (named : optionOf? program argument = some (a, value?)) :
    a = configuration ∧ optionOf? roundTripCommand argument = some (configuration, value?) := by
  obtain ⟨member, ⟨value, form⟩, way⟩ := of_optionOf? named
  have options : program.options = [configuration, helpFlag, versionFlag] := rfl
  simp only [options, List.mem_cons, List.not_mem_nil, or_false] at member
  obtain rfl | rfl | rfl := member
  · obtain ⟨text, long, name, -, rfl⟩ | ⟨x, rest, -, letter, -⟩ := way
    · have found : roundTripCommand.long? (String.ofList (text.takeWhile (· ≠ '='))) = some configuration := by
        rw [← name]
        rfl
      refine ⟨rfl, ?_⟩
      simp only [optionOf?, long, found]
      rfl
    · cases letter
  · cases form
  · cases form

end Commands

/-- The arguments that name the file for the output, or that its name comes next. -/
def outputArguments : Option String → List String
  | some p => ["-o" ++ p, "-o=" ++ p, "--output=" ++ p]
  | none => ["-o", "--output"]

/-- The ways to say that the output goes to a file. -/
def outputForms (p : String) : List (List String) :=
  (outputArguments (some p)).map ([·]) ++ (outputArguments none).map ([·, p])

theorem mem_outputArguments {argument : String} {value? : Option String}
    (named : optionOf? roundTripCommand argument = some (output, value?)) : argument ∈ outputArguments value? := by
  obtain ⟨-, -, ⟨text, long, name, -, rfl⟩ | ⟨x, rest, short, letter, -, rfl⟩⟩ := of_optionOf? named
  · obtain ⟨behind, same⟩ | ⟨value, behind, same⟩ := eq_of_long long
    all_goals
      rw [← name] at same
      rw [behind, same]
      simp [outputArguments, output]
  · obtain rfl : 'o' = x := Option.some.inj letter
    obtain ⟨behind, same⟩ | ⟨value, behind, same | same⟩ := eq_of_short short
    all_goals simp [outputArguments, behind, same]

theorem mem_outputForms {p : String} {taken : List String} (names : Names roundTripCommand output p taken) :
    taken ∈ outputForms p := by
  cases names with
  | joined named => exact List.mem_append_left _ (List.mem_map_of_mem (mem_outputArguments named))
  | apart named => exact List.mem_append_right _ (List.mem_map_of_mem (mem_outputArguments named))

/-- What the program takes without a command has no place for an input. -/
theorem input_notMem_of_steps {t t' s s' : State} {arguments : List String} (left : Steps program t arguments t')
    (right : Steps roundTripCommand s arguments s') (only : s.onlyPositional = t.onlyPositional)
    (waiting : s.waiting? = t.waiting?) (absent : input ∉ s.all.map (·.1)) (other : s.waiting? ≠ some input) :
    input ∉ s'.all.map (·.1) := by
  induction left generalizing s with
  | nil =>
    cases right
    exact absent
  | cons _ step _ ih =>
    cases right with | cons _ step' right =>
    cases step with
    | hyphens before two =>
      cases step' with
      | hyphens => exact ih right rfl waiting absent other
      | value _ plain => cases two.symm.trans plain
      | positional before' => simp [only, before, two] at before'
      | option _ named | optionValue _ named => simp [optionOf?_eq_none (.inr two)] at named
    | value before plain waits =>
      cases step' with
      | hyphens _ two => cases plain.symm.trans two
      | value _ _ waits' =>
        refine ih right only rfl ?_ nofun
        obtain rfl := Option.some.inj (waits'.symm.trans (waiting.trans waits))
        have different : input ≠ _ := fun same => other (waits'.trans (congrArg some same.symm))
        rw [State.all_of_waiting waits'] at absent
        simpa [different] using absent
      | positional _ _ still => cases waits.symm.trans (waiting.symm.trans still)
      | option _ named | optionValue _ named => simp [optionOf?_eq_none (.inl plain)] at named
    | positional _ here => cases here
    | option before named =>
      obtain ⟨rfl, named'⟩ := optionOf?_program named
      obtain ⟨only', waiting', all'⟩ := step'.of_optionOf? (only.trans before) named'
      have different : configuration ≠ input := by decide
      exact ih right (only'.trans before.symm) waiting' (by simpa [all'] using absent)
        (by simpa [waiting'] using different)
    | optionValue before named =>
      obtain ⟨rfl, named'⟩ := optionOf?_program named
      obtain ⟨only', waiting', all'⟩ := step'.of_optionOf? (only.trans before) named'
      have different : input ≠ configuration := by decide
      exact ih right (only'.trans before.symm) waiting' (by simpa [all', different] using absent) (by simp [waiting'])

section Invocations

variable {arguments : List String}

theorem exists_values {c : Command} (flat : c.subcommands = []) {s : State} {found : List (String × Values)}
    (ok : readFrom c s arguments = .ok found) : ∃ vs, found = [(c.name, vs)] := by
  induction arguments generalizing s with
  | nil =>
    obtain ⟨vs, -, ⟨⟩⟩ := exists_of_bind_eq_ok ok
    exact ⟨vs, rfl⟩
  | cons argument rest ih =>
    have called : s.called? c argument = none := by simp [State.called?, Command.subcommand?, flat]
    rw [readFrom_cons, called] at ok
    obtain ⟨next, -, ok⟩ := exists_of_bind_eq_ok ok
    exact ih ok

theorem subcommand?_of_called? {s : State} {c sub : Command} {argument : String} (called : s.called? c argument = some sub) :
    c.subcommand? argument = some sub := by
  unfold State.called? at called
  split_ifs at called
  exact called

/-- Only the command for it makes a round trip. -/
theorem exists_roundTrip_of_read {found : List (String × Values)} {settings? output? : Option String} {path : String}
    (ok : CommandLine.read program arguments = .ok found)
    (same : Invocation.ofValues found = ⟨settings?, .roundTrip path output?⟩) :
    ∃ before argument others after vs, arguments = before ++ argument :: others ∧ Steps program {} before after ∧
      after.called? program argument = some roundTripCommand ∧ Complete program after true ∧
      readFrom roundTripCommand {} others = .ok [(roundTripCommand.name, vs)] ∧
      found = [(program.name, after.all), (roundTripCommand.name, vs)] := by
  cases (readFrom_eq_ok_iff program_valued proper_nil).mp ok with
  | alone => cases congrArg Invocation.task same
  | @calling before others argument after sub inner steps called notHelp complete accepted =>
    have member : sub ∈ [roundTripCommand, headerCommand, inspectCommand, helpOnCommand] :=
      List.mem_of_find?_eq_some (subcommand?_of_called? called)
    have flat : sub.subcommands = [] := by
      simp only [List.mem_cons, List.not_mem_nil, or_false] at member
      obtain rfl | rfl | rfl | rfl := member <;> rfl
    obtain ⟨vs, rfl⟩ := exists_values flat accepted
    have task := congrArg Invocation.task same
    simp only [List.mem_cons, List.not_mem_nil, or_false] at member
    obtain rfl | rfl | rfl | rfl := member
    · exact ⟨before, argument, others, after, vs, rfl, steps, called, complete, accepted, rfl⟩
    · cases task
    · cases task
    · cases task

theorem read_roundTrip_cons (arguments : List String) :
    CommandLine.read program (roundTripCommand.name :: arguments) =
      (readFrom roundTripCommand {} arguments).map fun inner => (program.name, []) :: inner := by
  have called : State.called? {} program roundTripCommand.name = some roundTripCommand := rfl
  have other : roundTripCommand.name ≠ helpCommand := by decide
  rw [CommandLine.read, readFrom_cons, called]
  dsimp only
  rw [if_neg other]
  cases readFrom roundTripCommand {} arguments <;> rfl

theorem valueOf?_without_self (vs : Values) (x : Argument) : valueOf? (vs.without x) x = none := by
  simp [valueOf?, Values.without, List.find?_filter]

theorem ofValues_roundTrip (before vs : Values) :
    Invocation.ofValues [(program.name, before), (roundTripCommand.name, vs)] =
      ⟨(valueOf? vs configuration).or (valueOf? before configuration),
        .roundTrip ((valueOf? vs input).getD "") (valueOf? vs output)⟩ := by
  have settings? : [(roundTripCommand.name, vs), (program.name, before)].findSome? (fun found => valueOf? found.2 configuration) =
      (valueOf? vs configuration).or (valueOf? before configuration) := by
    cases here : valueOf? vs configuration <;> simp [here]
  exact congrArg (Invocation.mk · _) settings?

theorem ofValues_without {before vs : Values} {settings? : Option String} {path p : String}
    (same : Invocation.ofValues [(program.name, before), (roundTripCommand.name, vs)] =
      ⟨settings?, .roundTrip path (some p)⟩) :
    valueOf? vs output = some p ∧
      Invocation.ofValues [(program.name, before), (roundTripCommand.name, vs.without output)] =
        ⟨settings?, .roundTrip path none⟩ := by
  have others : configuration ≠ output ∧ input ≠ output := by decide
  rw [ofValues_roundTrip] at same ⊢
  rw [valueOf?_without others.1, valueOf?_without others.2, valueOf?_without_self]
  simp only [Invocation.mk.injEq, Task.roundTrip.injEq] at same
  obtain ⟨rfl, rfl, named⟩ := same
  exact ⟨named, rfl⟩

theorem exists_shorter {others : List String} {vs : Values} {p : String}
    (accepted : readFrom roundTripCommand {} others = .ok [(roundTripCommand.name, vs)]) (named : valueOf? vs output = some p) :
    ∃ before taken rest, others = before ++ taken ++ rest ∧ taken ∈ outputForms p ∧
      readFrom roundTripCommand {} (before ++ rest) = .ok [(roundTripCommand.name, vs.without output)] := by
  have accepts := (readFrom_eq_ok_iff roundTripCommand_valued proper_nil).mp accepted
  have option : output ∉ roundTripCommand.positionals := by decide
  obtain ⟨before, taken, rest, whole, names, accepts⟩ := accepts.exists_omission rfl option rfl named
  exact ⟨before, taken, rest, whole, mem_outputForms names,
    (readFrom_eq_ok_iff roundTripCommand_valued proper_nil).mpr accepts⟩

/-- Arguments of the command are none of the program. -/
theorem read_ne_ok {found inner : List (String × Values)} (accepted : readFrom roundTripCommand {} arguments = .ok inner)
    (uncalled : arguments.any isCommandName = false) : CommandLine.read program arguments ≠ .ok found := by
  intro ok
  cases (readFrom_eq_ok_iff program_valued proper_nil).mp ok with
  | alone steps complete =>
    cases (readFrom_eq_ok_iff roundTripCommand_valued proper_nil).mp accepted with
    | alone steps' complete' =>
      refine input_notMem_of_steps steps steps' rfl rfl (by simp [State.all]) nofun ?_
      exact complete'.required input (by decide) rfl
    | calling _ called => simp [State.called?, Command.subcommand?, roundTripCommand] at called
  | calling _ called =>
    have name := List.any_eq_false.mp uncalled _ (List.mem_append_right _ List.mem_cons_self)
    exact name (by rw [isCommandName, subcommand?_of_called? called]; rfl)

/-- Arguments as they are, if one of them can be an input or the name of a command, or else those of the default
command, by its name. -/
def spelledOut (arguments : List String) : List String :=
  if arguments.any (!·.startsWith "-") then arguments else roundTripCommand.name :: arguments

section Shorter

variable {found : List (String × Values)} {settings? : Option String} {path p : String}

/-- The command is named, and the option is one of its arguments. -/
theorem exists_shorter_of_named (whole : CommandLine.read program arguments = .ok found)
    (same : Invocation.ofValues found = ⟨settings?, .roundTrip path (some p)⟩) :
    ∃ before taken rest, arguments = before ++ taken ++ rest ∧ taken ∈ outputForms p ∧
      Invocation.read (spelledOut (before ++ rest)) = .ok ⟨settings?, .roundTrip path none⟩ := by
  obtain ⟨front, argument, others, after, vs, rfl, steps, called, complete, accepted, rfl⟩ :=
    exists_roundTrip_of_read whole same
  obtain ⟨named, same⟩ := ofValues_without same
  obtain ⟨before, taken, rest, rfl, form, accepted'⟩ := exists_shorter accepted named
  refine ⟨front ++ argument :: before, taken, rest, by simp, form, ?_⟩
  obtain rfl : roundTripCommand.name = argument := by simpa using List.find?_some (subcommand?_of_called? called)
  have first : roundTripCommand.name.startsWith "-" = false := by decide +kernel
  have shorter : CommandLine.read program (front ++ roundTripCommand.name :: before ++ rest) =
      .ok [(program.name, after.all), (roundTripCommand.name, vs.without output)] := by
    rw [CommandLine.read, readFrom_eq_ok_iff program_valued proper_nil, List.append_assoc, List.cons_append]
    exact .calling steps called (by decide) complete accepted'
  rw [spelledOut, if_pos (by simp [first]), Invocation.read, shorter]
  exact congrArg Except.ok same

/-- What is no input for the program is one for its default command. -/
theorem Invocation.read_of_default (uncalled : arguments.any isCommandName = false)
    (positional : arguments.all (·.startsWith "-") = false) {inner : List (String × Values)}
    (accepted : readFrom roundTripCommand {} arguments = .ok inner) :
    Invocation.read arguments = .ok (Invocation.ofValues ((program.name, []) :: inner)) := by
  cases whole : CommandLine.read program arguments with
  | ok found => exact absurd whole (read_ne_ok accepted uncalled)
  | error stop =>
    rw [Invocation.read, whole, uncalled, positional]
    dsimp only
    rw [if_neg (by decide), read_roundTrip_cons, accepted]
    rfl

/-- The command is put in front, and without the option it is put there again if an argument is left for an input. -/
theorem exists_shorter_of_default (uncalled : arguments.any isCommandName = false)
    (whole : CommandLine.read program (roundTripCommand.name :: arguments) = .ok found)
    (same : Invocation.ofValues found = ⟨settings?, .roundTrip path (some p)⟩) :
    ∃ before taken rest, arguments = before ++ taken ++ rest ∧ taken ∈ outputForms p ∧
      Invocation.read (spelledOut (before ++ rest)) = .ok ⟨settings?, .roundTrip path none⟩ := by
  rw [read_roundTrip_cons] at whole
  obtain ⟨inner, accepted, rfl⟩ := exists_of_map_eq_ok whole
  obtain ⟨vs, rfl⟩ := exists_values rfl accepted
  obtain ⟨named, same⟩ := ofValues_without same
  obtain ⟨before, taken, rest, rfl, form, accepted'⟩ := exists_shorter accepted named
  refine ⟨before, taken, rest, rfl, form, ?_⟩
  unfold spelledOut
  split_ifs with left
  · have uncalled' : (before ++ rest).any isCommandName = false := by
      simp only [List.any_append, Bool.or_eq_false_iff] at uncalled ⊢
      exact ⟨uncalled.1.1, uncalled.2⟩
    have positional : (before ++ rest).all (·.startsWith "-") = false := by
      obtain ⟨argument, member, first⟩ := List.any_eq_true.mp left
      exact List.all_eq_false.mpr ⟨argument, member, by simpa using first⟩
    rw [Invocation.read_of_default uncalled' positional accepted', same]
  · rw [Invocation.read, read_roundTrip_cons, accepted']
    exact congrArg Except.ok same

/-- A round trip into a file is called with an option for the file, and the same round trip without it. -/
theorem Invocation.exists_shorter (ok : Invocation.read arguments = .ok ⟨settings?, .roundTrip path (some p)⟩) :
    ∃ before taken rest, arguments = before ++ taken ++ rest ∧ taken ∈ outputForms p ∧
      Invocation.read (spelledOut (before ++ rest)) = .ok ⟨settings?, .roundTrip path none⟩ := by
  unfold Invocation.read at ok
  split at ok
  · next whole => exact exists_shorter_of_named whole (Except.ok.inj ok)
  · split_ifs at ok with guard
    obtain ⟨uncalled, -⟩ := Bool.or_eq_false_iff.mp (Bool.eq_false_iff.mpr guard)
    obtain ⟨found, whole, same⟩ := exists_of_map_eq_ok ok
    exact exists_shorter_of_default uncalled whole same

end Shorter

end Invocations

end Frontmark.CommandLine
