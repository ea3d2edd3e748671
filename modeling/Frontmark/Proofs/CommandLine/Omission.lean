import Frontmark.CommandLine.Invocation
import Frontmark.Proofs.CommandLine.Steps

/-! Calls without one of their options.

Main statement: if an option need not be there, then a call with it is a call without it as well, with all of the
other values (`Steps.exists_omission`). -/

set_option autoImplicit false

namespace Frontmark.CommandLine

def Values.without (vs : Values) (x : Argument) : Values :=
  vs.filter (·.1 ≠ x)

section Values

variable {vs : Values} {a x : Argument} {p value : String}

theorem Proper.without (proper : Proper vs) (x : Argument) : Proper (vs.without x) :=
  ⟨proper.1.sublist (List.filter_sublist.map _), fun y member => proper.2 y (List.mem_of_mem_filter member)⟩

theorem without_eq_self (absent : x ∉ vs.map (·.1)) : vs.without x = vs := by
  refine List.filter_eq_self.mpr fun y member => decide_eq_true fun same => absent ?_
  exact List.mem_map.mpr ⟨y, member, same⟩

theorem without_concat (other : a ≠ x) : Values.without (vs ++ [(a, value)]) x = vs.without x ++ [(a, value)] := by
  simp [Values.without, other]

theorem without_concat_self (absent : x ∉ vs.map (·.1)) : Values.without (vs ++ [(x, value)]) x = vs := by
  have first : vs.without x = vs := without_eq_self absent
  simpa [Values.without] using first

theorem valueOf?_without (other : a ≠ x) : valueOf? (vs.without x) a = valueOf? vs a := by
  have same : (fun y : Argument × String => decide (decide (y.1 ≠ x) = true ∧ decide (y.1 = a) = true)) =
      fun y => decide (y.1 = a) := by
    funext y
    by_cases here : y.1 = a <;> simp [here, other]
  rw [valueOf?, valueOf?, Values.without, List.find?_filter, same]

theorem mem_of_valueOf? (found : valueOf? vs x = some p) : x ∈ vs.map (·.1) := by
  obtain ⟨y, here, -⟩ := Option.map_eq_some_iff.mp found
  exact List.mem_map.mpr ⟨y, List.mem_of_find?_eq_some here, by simpa using List.find?_some here⟩

theorem valueOf?_concat (found : valueOf? vs x = some p) : valueOf? (vs ++ [(a, value)]) x = some p := by
  obtain ⟨y, here, rfl⟩ := Option.map_eq_some_iff.mp found
  simp [valueOf?, List.find?_append, here]

theorem valueOf?_concat_self (absent : x ∉ vs.map (·.1)) : valueOf? (vs ++ [(x, value)]) x = some value := by
  have none : vs.find? (·.1 = x) = Option.none := by
    refine List.find?_eq_none.mpr fun y member same => absent ?_
    exact List.mem_map.mpr ⟨y, member, by simpa using same⟩
  simp [valueOf?, List.find?_append, none]

end Values

variable {c : Command} {x : Argument} {p : String}

/-- A state is another one without an option that is stored or pending there. -/
structure Without (x : Argument) (p : String) (t s : State) : Prop where
  places : s.places = t.places
  only : s.onlyPositional = t.onlyPositional
  waiting : s.waiting? = t.waiting?
  properWith : Proper t.found
  proper : Proper s.found
  all : Proper t.all → valueOf? t.all x = some p ∧ s.all = t.all.without x

section Taken

variable {t s next : State} {a : Argument} {argument value : String}

theorem without_concat_of_valueOf? {vs ws : Values} (all : Proper vs → valueOf? vs x = some p ∧ ws = vs.without x)
    (proper : Proper (vs ++ [(a, value)])) :
    valueOf? (vs ++ [(a, value)]) x = some p ∧ ws ++ [(a, value)] = Values.without (vs ++ [(a, value)]) x := by
  obtain ⟨before, absent, -⟩ := proper_concat.mp proper
  obtain ⟨found, same⟩ := all before
  have other : a ≠ x := fun same => absent (same ▸ mem_of_valueOf? found)
  exact ⟨valueOf?_concat found, by rw [without_concat other, same]⟩

theorem State.all_of_waiting (waits : s.waiting? = some a) : s.all = s.found := by
  obtain ⟨found, _ | ⟨b, _ | value⟩, places, only⟩ := s
  · cases waits
  · exact List.append_nil _
  · cases waits

/-- What the one state makes of an argument, the other one makes of it too. -/
theorem Without.step (without : Without x p t s) (step : Step c t argument next) :
    ∃ next', Step c s argument next' ∧ Without x p next next' := by
  obtain ⟨places, only, waiting, properWith, proper, all⟩ := without
  cases step with
  | hyphens before two =>
    exact ⟨_, .hyphens (only.trans before) two, ⟨places, rfl, waiting, properWith, proper, all⟩⟩
  | value before plain waits =>
    have waits' := waiting.trans waits
    refine ⟨_, .value (only.trans before) plain waits', ⟨places, only, rfl, properWith, proper, fun properAll => ?_⟩⟩
    rw [State.all_of_waiting waits, State.all_of_waiting waits'] at all
    exact without_concat_of_valueOf? all properAll
  | positional before here still properAll =>
    obtain ⟨found, same⟩ := all properAll
    have properAll' : Proper s.all := same ▸ properAll.without x
    refine ⟨_, .positional (before.imp_left only.trans) (places ▸ here) (waiting.trans still) properAll',
      ⟨congrArg (· + 1) places, only, rfl, properAll, properAll', without_concat_of_valueOf? all⟩⟩
  | option before named still properAll =>
    obtain ⟨found, same⟩ := all properAll
    have properAll' : Proper s.all := same ▸ properAll.without x
    refine ⟨_, .option (only.trans before) named (waiting.trans still) properAll',
      ⟨places, only, rfl, properAll, properAll', ?_⟩⟩
    rwa [State.all_waiting, State.all_waiting]
  | optionValue before named still properAll =>
    obtain ⟨found, same⟩ := without_concat_of_valueOf? all properAll
    have properAll' := properAll.without x
    rw [← same] at properAll'
    refine ⟨_, .optionValue (only.trans before) named (waiting.trans still) properAll',
      ⟨places, only, rfl, properAll, properAll', fun _ => ?_⟩⟩
    rw [State.settled, State.settled, State.all_stored, State.all_stored]
    exact ⟨found, same⟩

theorem Without.called? (without : Without x p t s) (c : Command) (argument : String) :
    s.called? c argument = t.called? c argument := by
  rw [State.called?, State.called?, without.only, without.waiting]

theorem Without.steps {after : State} {arguments : List String} (without : Without x p t s) (steps : Steps c t arguments after) :
    ∃ after', Steps c s arguments after' ∧ Without x p after after' := by
  induction steps generalizing s with
  | nil => exact ⟨s, .nil s, without⟩
  | cons called step _ ih =>
    obtain ⟨next', step', without'⟩ := without.step step
    obtain ⟨after', steps', rest⟩ := ih without'
    exact ⟨after', .cons ((without.called? _ _).trans called) step' steps', rest⟩

/-- An option with its value. -/
inductive Names (c : Command) (x : Argument) (p : String) : List String → Prop
  | joined {argument : String} (named : optionOf? c argument = some (x, some p)) : Names c x p [argument]
  | apart {argument : String} (named : optionOf? c argument = some (x, none)) (plain : shape p = .plain) :
      Names c x p [argument, p]

theorem Without.of_taken (all : t.all = s.all ++ [(x, p)]) (absent : x ∉ s.all.map (·.1)) (places : s.places = t.places)
    (only : s.onlyPositional = t.onlyPositional) (waiting : s.waiting? = t.waiting?) (properWith : Proper t.found)
    (proper : Proper s.found) : Without x p t s := by
  refine ⟨places, only, waiting, properWith, proper, fun _ => ?_⟩
  rw [all]
  exact ⟨valueOf?_concat_self absent, (without_concat_self absent).symm⟩

/-- Behind two hyphens an option gets no value any more. -/
theorem Steps.waiting {after : State} {arguments : List String} (steps : Steps c s arguments after)
    (only : s.onlyPositional = true) (waits : s.waiting? = some a) : after.waiting? = some a := by
  cases steps with
  | nil => exact waits
  | cons _ step _ =>
    cases step with
    | hyphens before | value before | option before | optionValue before => simp [only] at before
    | positional _ _ still => simp [waits] at still

theorem exists_without {after : State} {arguments : List String} (steps : Steps c s arguments after) (proper : Proper s.found)
    (still : after.waiting? = none) (option : x ∉ c.positionals) (absent : x ∉ s.all.map (·.1)) (other : s.waiting? ≠ some x)
    (found : valueOf? after.all x = some p) :
    ∃ before taken rest q t u, arguments = before ++ taken ++ rest ∧ Names c x q taken ∧ Steps c s before u ∧
      Steps c t rest after ∧ Without x q t u := by
  induction steps with
  | nil => exact absurd (mem_of_valueOf? found) absent
  | @cons s next after argument rest called step steps ih =>
    have later (absent : x ∉ next.all.map (·.1)) (other : next.waiting? ≠ some x) :
        ∃ before taken rest' q t u, argument :: rest = before ++ taken ++ rest' ∧ Names c x q taken ∧ Steps c s before u ∧
          Steps c t rest' after ∧ Without x q t u := by
      obtain ⟨before, taken, rest', q, t, u, rfl, names, first, others, without⟩ := ih (step.proper proper) still absent other found
      exact ⟨argument :: before, taken, rest', q, t, u, rfl, names, .cons called step first, others, without⟩
    cases step with
    | hyphens => exact later absent other
    | @value a before plain waits =>
      have different : a ≠ x := fun same => other (same ▸ waits)
      rw [State.all_of_waiting waits] at absent
      exact later (by simpa [different.symm] using absent) (Option.some_ne_none x).symm
    | @positional a before here =>
      have different : a ≠ x := fun same => option (same ▸ List.mem_of_getElem? here)
      exact later (by simpa [different.symm, State.settled] using absent) (Option.some_ne_none x).symm
    | @option a before named waits properAll =>
      by_cases same : a = x
      · subst same
        -- the value has to come next
        cases steps with
        | nil => cases still
        | cons _ step' steps' =>
          cases step' with
          | hyphens => cases (steps'.waiting rfl rfl).symm.trans still
          | value _ plain waits' =>
            cases waits'
            exact ⟨[], _, _, _, _, s, rfl, .apart named plain, .nil s, steps',
              .of_taken rfl absent rfl rfl waits properAll proper⟩
          | positional _ _ still' | option _ _ still' | optionValue _ _ still' => cases still'
      · exact later (by simpa [State.settled] using absent) fun waits' => same (Option.some.inj waits')
    | @optionValue a value before named waits properAll =>
      by_cases same : a = x
      · subst same
        exact ⟨[], _, _, _, _, s, rfl, .joined named, .nil s, steps,
          .of_taken (State.all_stored ..) absent rfl rfl waits properAll proper⟩
      · exact later (by simpa [Ne.symm same, State.settled] using absent) (Option.some_ne_none x).symm

theorem Steps.append {middle after : State} {first others : List String} (steps : Steps c s first middle)
    (steps' : Steps c middle others after) : Steps c s (first ++ others) after := by
  induction steps with
  | nil => exact steps'
  | cons called step _ ih => exact .cons called step (ih steps')

theorem proper_nil : Proper [] :=
  ⟨List.nodup_nil, nofun⟩

theorem Complete.without {after after' : State} (complete : Complete c after false) (flat : c.subcommands = [])
    (optional_ : x.isRequired = false) (without : Without x p after after') : Complete c after' false := by
  obtain ⟨-, same⟩ := without.all complete.proper
  refine ⟨without.waiting.trans complete.still, same ▸ complete.proper.without x, fun a member required => ?_, .inr (.inr flat)⟩
  have other : a ≠ x := by
    rintro rfl
    simp [optional_] at required
  obtain ⟨y, stored, rfl⟩ := List.mem_map.mp (complete.required a member required)
  exact List.mem_map.mpr ⟨y, by simp [same, Values.without, stored, other], rfl⟩

/-- A call with an option that need not be there, and the call without it. -/
theorem Accepts.exists_omission {arguments : List String} {vs : Values} (flat : c.subcommands = []) (option : x ∉ c.positionals)
    (optional_ : x.isRequired = false) (accepts : Accepts c {} arguments [(c.name, vs)]) (found : valueOf? vs x = some p) :
    ∃ before taken rest, arguments = before ++ taken ++ rest ∧ Names c x p taken ∧
      Accepts c {} (before ++ rest) [(c.name, vs.without x)] := by
  cases accepts with
  | alone steps complete =>
    obtain ⟨before, taken, rest, q, t, u, rfl, names, first, others, without⟩ :=
      exists_without steps proper_nil complete.still option (by simp [State.all]) nofun found
    obtain ⟨after', others', without'⟩ := without.steps others
    obtain ⟨found', same⟩ := without'.all complete.proper
    obtain rfl : q = p := Option.some.inj (found'.symm.trans found)
    exact ⟨before, taken, rest, rfl, names, same ▸ .alone (first.append others') (complete.without flat optional_ without')⟩
  | calling _ called => simp [State.called?, Command.subcommand?, flat] at called

end Taken

end Frontmark.CommandLine
