import Frontmark.Proofs.Yaml.Gaps

/-! What the end of a text makes of the tokens before it. -/

set_option autoImplicit false

namespace Frontmark.Yaml

/-- Wherever the text ends, a flow collection is open. -/
def Tokens.IsCut (t : Tokens) : Prop :=
  ∀ before after, t.tokens.map Token.symbol = before ++ .textEnd :: after → before.foldl Symbol.flows 0 ≠ 0

theorem flows_reverse (tokens : List Token) : (tokens.reverse.map Token.symbol).foldl Symbol.flows 0 = openFlows tokens := by
  rw [List.map_reverse, List.foldl_reverse, List.foldr_map, openFlows]

theorem Tokens.isCut_of_unended {t : Tokens} (unended : ∀ s ∈ t.tokens, s.symbol ≠ .textEnd) : t.IsCut := by
  intro before after cut
  obtain ⟨s, mem, ends⟩ := List.mem_map.mp (cut ▸ List.mem_append_right before List.mem_cons_self)
  exact absurd ends (unended s mem)

namespace Layout

variable {l a b : Layout}

/-- Whether something is open that the end of the text does not close. -/
def isOpen (l : Layout) : Bool :=
  l.inFlow || l.isKeyPending

/-- All symbols, the last one first, if the text ends here. -/
def ending (l : Layout) : List Symbol :=
  .textEnd :: (List.replicate (if l.inFlow then 0 else l.indents.length) .blockEnd ++ l.tokens.map Token.symbol)

theorem ending_of_outside (outside : l.inFlow = false) :
    l.ending = .textEnd :: (List.replicate l.indents.length .blockEnd ++ l.tokens.map Token.symbol) := by
  rw [ending, if_neg (by simp [outside])]

/-- The end of the text does to `a` what it does to `l`. -/
structure Toward (l a : Layout) : Prop where
  ending : a.ending = l.ending
  inFlow : a.inFlow = l.inFlow
  pending : a.isKeyPending = l.isKeyPending
  cursor : a.cursor = l.cursor

namespace Toward

theorem refl (l : Layout) : Toward l l :=
  ⟨rfl, rfl, rfl, rfl⟩

theorem trans (first : Toward l a) (second : Toward a b) : Toward l b :=
  ⟨second.ending.trans first.ending, second.inFlow.trans first.inFlow, second.pending.trans first.pending,
    second.cursor.trans first.cursor⟩

theorem isOpen (toward : Toward l a) : a.isOpen = l.isOpen := by
  rw [Layout.isOpen, Layout.isOpen, toward.inFlow, toward.pending]

end Toward

theorem Level.inFlow (level : Level a b) : b.inFlow = a.inFlow := by
  have length := level.enclosing
  rw [Layout.inFlow, Layout.inFlow]
  cases first : a.enclosing <;> cases second : b.enclosing <;> simp_all

theorem Level.isOpen (level : Level a b) : b.isOpen = a.isOpen := by
  rw [Layout.isOpen, Layout.isOpen, level.inFlow, level.pending]

theorem Level.ending (level : Level a b) : b.ending = a.ending := by
  rw [Layout.ending, Layout.ending, level.inFlow, level.indents, level.symbols]

theorem Level.toward (level : Level l a) (same : a.cursor = l.cursor) : Toward l a :=
  ⟨level.ending, level.inFlow, level.pending, same⟩

theorem symbols_closed (mark : Mark) (indents : List Nat) (l : Layout) :
    (indents.foldl (fun closed _ => closed.put mark .blockEnd) l).tokens.map Token.symbol =
      List.replicate indents.length .blockEnd ++ l.tokens.map Token.symbol := by
  induction indents generalizing l with
  | nil => rfl
  | cons indent indents ih =>
    rw [List.foldl_cons, ih, List.length_cons, List.replicate_succ', List.append_assoc]
    rfl

theorem closed_others (mark : Mark) (indents : List Nat) (l : Layout) :
    let closed := indents.foldl (fun closed _ => closed.put mark .blockEnd) l
    closed.candidate? = l.candidate? ∧ closed.enclosing = l.enclosing ∧ closed.cursor = l.cursor := by
  induction indents generalizing l with
  | nil => exact ⟨rfl, rfl, rfl⟩
  | cons indent indents ih => exact ih (l.put mark .blockEnd)

/-- Blocks that are closed early are not closed again. -/
theorem toward_closeBlocks (l : Layout) (column? : Option Nat) : Toward l (l.closeBlocks column?) := by
  unfold closeBlocks
  split_ifs with inFlow
  · exact .refl l
  · let isInner (indent : Nat) : Bool := column?.all (· < indent)
    let closed := (l.indents.takeWhile isInner).foldl (fun closed _ => closed.put l.mark .blockEnd) l
    obtain ⟨candidate, enclosing, cursor⟩ := closed_others l.mark (l.indents.takeWhile isInner) l
    have symbols : closed.tokens.map Token.symbol = _ := symbols_closed l.mark (l.indents.takeWhile isInner) l
    have length : (l.indents.dropWhile isInner).length + (l.indents.takeWhile isInner).length = l.indents.length := by
      rw [Nat.add_comm, ← List.length_append, List.takeWhile_append_dropWhile]
    have outside : l.inFlow = false := by simpa using inFlow
    have same : closed.inFlow = l.inFlow := congrArg (fun e => !List.isEmpty e) enclosing
    change Toward l { closed with indents := l.indents.dropWhile isInner }
    refine ⟨?_, same, congrArg (Option.any Candidate.required) candidate, cursor⟩
    rw [ending_of_outside (l := { closed with indents := l.indents.dropWhile isInner }) (same.trans outside),
      ending_of_outside outside]
    refine congrArg (Symbol.textEnd :: ·) ((congrArg (List.replicate _ Symbol.blockEnd ++ ·) symbols).trans ?_)
    rw [← List.append_assoc, List.replicate_append_replicate, length]

theorem checkStale_yields (k? : Option Candidate) :
    Yields (fun a => a.any Candidate.required = k?.any Candidate.required) (l.checkStale k?) := by
  cases k? with
  | none => exact .ok rfl
  | some k =>
    refine .ite (fun _ => .ite (fun _ => .error) fun optional => .ok ?_) fun _ => .ok rfl
    simpa using optional

theorem dropStale_yields (l : Layout) : Yields (fun a => Level l a ∧ a.cursor = l.cursor) l.dropStale := by
  have keeps : Yields (Keeps l) l.dropStale :=
    (dropStale_agree (w := ⟨0, 0, [], nofun⟩)).yields.mono fun a ⟨_, settles⟩ => settles.2
  have others : Yields (fun a => a.indents = l.indents ∧ a.tokens = l.tokens ∧ a.isKeyPending = l.isKeyPending) l.dropStale :=
    .bind_last fun enclosing => (checkStale_yields l.candidate?).bind fun candidate? same => .ok ⟨rfl, rfl, same⟩
  refine (keeps.and others).mono fun a ⟨keeps, indents, tokens, pending⟩ => ?_
  exact ⟨⟨by rw [tokens], congrArg List.length indents, keeps.enclosing, pending, keeps.ended⟩, keeps.cursor⟩

theorem exists_dropStale (closed : l.isOpen = false) : ∃ a, l.dropStale = .ok a := by
  obtain ⟨outside, pending⟩ : l.inFlow = false ∧ l.isKeyPending = false := by simpa [isOpen] using closed
  have enclosing : l.enclosing = [] := by simpa [inFlow] using outside
  obtain ⟨candidate?, ok⟩ : ∃ candidate?, l.checkStale l.candidate? = .ok candidate? := by
    rw [isKeyPending] at pending
    cases candidate : l.candidate? with
    | none => exact ⟨none, rfl⟩
    | some k =>
      have optional : k.required = false := by simpa [candidate] using pending
      by_cases stale : k.isStale l.mark = true
      · exact ⟨none, by simp [checkStale, stale, optional]⟩
      · exact ⟨some k, by simp [checkStale, stale]⟩
  rw [dropStale, enclosing, ok]
  exact ⟨_, rfl⟩

/-- No block is left to be closed. -/
theorem ending_closeBlocks_none (l : Layout) :
    (l.closeBlocks none).ending = .textEnd :: (l.closeBlocks none).tokens.map Token.symbol := by
  by_cases inFlow : l.inFlow = true
  · rw [closeBlocks, if_pos inFlow, ending, if_pos inFlow]
    rfl
  · have indents : (l.closeBlocks none).indents = [] := by
      rw [closeBlocks, if_neg inFlow]
      exact List.dropWhile_eq_nil_iff.mpr fun _ _ => rfl
    rw [ending, indents]
    split_ifs <;> rfl

/-- What is left of `l` when the text ends. -/
structure Ended (l a : Layout) : Prop where
  ended : a.ended = true
  symbols : a.tokens.map Token.symbol = l.ending
  settled : l.isKeyPending = false
  offset : a.mark.offset = l.mark.offset
  rest : a.cursor.rest = l.cursor.rest

theorem finish_yields (l : Layout) : Yields (Ended l) l.finish := by
  unfold finish
  dsimp only
  have offset : (if l.mark.column = 0 then l.mark else { l.mark with line := l.mark.line + 1, column := 0 }).offset =
      l.mark.offset := by
    split_ifs <;> rfl
  generalize (if l.mark.column = 0 then l.mark else _) = m at offset
  have toward := toward_closeBlocks { l with cursor := { l.cursor with mark := m } } none
  have closed := ending_closeBlocks_none { l with cursor := { l.cursor with mark := m } }
  refine dropCandidate_yields.bind fun a ⟨same, settled⟩ => .ok ⟨rfl, ?_, toward.pending ▸ settled, ?_, ?_⟩
  · rw [same]
    exact closed.symm.trans toward.ending
  · rw [same]
    exact (congrArg (fun c : Cursor => c.mark.offset) toward.cursor).trans offset
  · rw [same]
    exact (congrArg Cursor.rest toward.cursor).trans rfl

theorem exists_finish (closed : l.isOpen = false) : ∃ a, l.finish = .ok a ∧ a.dropStale = .ok a := by
  unfold finish
  dsimp only
  generalize (if l.mark.column = 0 then l.mark else _) = m
  have toward := toward_closeBlocks { l with cursor := { l.cursor with mark := m } } none
  generalize closeBlocks { l with cursor := { l.cursor with mark := m } } none = c at toward ⊢
  obtain ⟨outside, settled⟩ : c.inFlow = false ∧ c.isKeyPending = false :=
    Bool.or_eq_false_iff.mp (toward.isOpen.trans closed)
  have enclosing : c.enclosing = [] := by simpa [inFlow] using outside
  rw [dropCandidate_of_settled settled]
  exact ⟨_, rfl, dropStale_of_none rfl enclosing⟩

/-- Read on behind a gap. -/
def afterGap (l : Layout) : Except Malformed Layout := do
  let l ← l.dropStale
  let l ← (l.closeBlocks (some l.mark.column)).token
  l.dropStale

theorem next_eq (limit : Nat) (l : Layout) : l.next limit = (passGaps (limit + 1) l).afterGap :=
  rfl

section End

variable (done : l.cursor.rest = [])
include done

theorem token_of_end : l.token = l.finish := by
  unfold Layout.token
  rw [done]

/-- Behind the last gap the text ends, and blocks are closed. -/
theorem afterGap_yields : Yields (Ended l) l.afterGap := by
  refine (dropStale_yields l).bind fun a ⟨level, same⟩ => ?_
  have toward := (level.toward same).trans (toward_closeBlocks a (some a.mark.column))
  rw [token_of_end (by rw [toward.cursor, done])]
  refine (finish_yields _).bind fun d ⟨ended, symbols, settled, offset, rest⟩ => (dropStale_yields d).mono fun e ⟨last, place⟩ => ?_
  refine ⟨last.ended.trans ended, last.symbols.trans (symbols.trans toward.ending), toward.pending ▸ settled, ?_, ?_⟩
  · rw [Layout.mark, place]
    exact offset.trans (congrArg (fun c : Cursor => c.mark.offset) toward.cursor)
  · rw [place]
    exact rest.trans (congrArg Cursor.rest toward.cursor)

theorem exists_afterGap (closed : l.isOpen = false) : ∃ a, l.afterGap = .ok a := by
  obtain ⟨a, ok⟩ := exists_dropStale closed
  obtain ⟨level, same⟩ := dropStale_yields l a ok
  have toward := (level.toward same).trans (toward_closeBlocks a (some a.mark.column))
  obtain ⟨d, finished, fresh⟩ := exists_finish (toward.isOpen.trans closed)
  refine ⟨d, ?_⟩
  simp only [afterGap, ok, bind, Except.bind]
  rw [token_of_end (by rw [toward.cursor, done]), finished]
  exact fresh

end End

end Layout

end Frontmark.Yaml
