import Frontmark.Proofs.Yaml.Ending
import Mathlib.Data.List.Basic

/-! All tokens of a text, with and without a margin. -/

set_option autoImplicit false

namespace Frontmark.Yaml

open Frontmark.Text

/-- Two texts are cut off both, or both are whole and have the same symbols. -/
def Tokens.Alike (t t' : Tokens) : Prop :=
  t.IsCut ∧ t'.IsCut ∨ t'.tokens.map Token.symbol = t.tokens.map Token.symbol ∧ t.fault? = none ∧ t'.fault? = none

namespace Tokens

variable {t t' t'' : Tokens}

theorem IsCut.of_symbols (cut : t.IsCut) (symbols : t'.tokens.map Token.symbol = t.tokens.map Token.symbol) : t'.IsCut :=
  fun before after same => cut before after (symbols.symm.trans same)

theorem Alike.trans (first : t.Alike t') (second : t'.Alike t'') : t.Alike t'' := by
  rcases first with ⟨cut, cut'⟩ | ⟨symbols, whole, -⟩ <;> rcases second with ⟨cut'', last⟩ | ⟨symbols', -, whole'⟩
  · exact .inl ⟨cut, last⟩
  · exact .inl ⟨cut, cut'.of_symbols symbols'⟩
  · exact .inl ⟨cut''.of_symbols symbols.symm, last⟩
  · exact .inr ⟨symbols'.trans symbols, whole, whole'⟩

end Tokens

namespace Layout

variable {w : Margin} {l a b : Layout} {n m : Nat}

theorem Level.refl (l : Layout) : Level l l :=
  ⟨rfl, rfl, rfl, rfl, rfl⟩

theorem Level.sound (level : Level a b) (sound : a.Sound) : b.Sound := by
  refine ⟨level.ended.trans sound.going, ?_, fun t mem => ?_⟩
  · rw [level.enclosing, ← sound.flows, ← flows_reverse, ← flows_reverse, List.map_reverse, level.symbols, List.map_reverse]
  · have mem : t.symbol ∈ b.tokens.map Token.symbol := List.mem_map_of_mem mem
    rw [level.symbols] at mem
    obtain ⟨s, mem, same⟩ := List.mem_map.mp mem
    exact same ▸ sound.unended s mem

theorem Moves.level (moves : Moves l a) : Level l a := by
  obtain ⟨k, same⟩ := moves.same
  rw [same]
  exact (Level.refl l).elsewhere

/-- The tokens of a text, given what `l` is followed by. -/
def resume (l : Layout) (n : Nat) (next : Except Malformed Layout) : Tokens :=
  match next with
  | .ok next => run none n next
  | .error fault => ⟨l.tokens.reverse.take l.settled, some fault⟩

theorem run_ended (ended : l.ended = true) (n : Nat) : run none n l = ⟨l.tokens.reverse, none⟩ := by
  cases n with
  | zero => rfl
  | succ n => rw [run, if_pos ended]

theorem run_succ (going : l.ended = false) (n : Nat) : run none (n + 1) l = l.resume n (l.next n) := by
  rw [run, if_neg (by simp [going])]
  cases l.next n <;> rfl

theorem resume_error (sound : l.Sound) (n : Nat) (fault : Malformed) : (l.resume n (.error fault)).IsCut :=
  Tokens.isCut_of_unended fun s mem => sound.unended s (List.mem_reverse.mp (List.mem_of_mem_take mem))

/-- The text ends with `l`. -/
structure Concludes (l : Layout) (t : Tokens) : Prop where
  cut : l.isOpen = true → t.IsCut
  whole : l.isOpen = false → t.tokens.map Token.symbol = l.ending.reverse ∧ t.fault? = none

theorem Concludes.alike {t t' : Tokens} (first : Concludes a t) (second : Concludes b t') (level : Level a b) : t.Alike t' := by
  have same := level.isOpen
  cases opened : a.isOpen with
  | true => exact .inl ⟨first.cut opened, second.cut (same.trans opened)⟩
  | false =>
    obtain ⟨symbols, fault⟩ := first.whole opened
    obtain ⟨symbols', fault'⟩ := second.whole (same.trans opened)
    exact .inr ⟨by rw [symbols, symbols', level.ending], fault, fault'⟩

theorem Concludes.of_level {t : Tokens} (concludes : Concludes b t) (level : Level a b) : Concludes a t :=
  ⟨fun opened => concludes.cut (level.isOpen.trans opened), fun closed =>
    level.ending ▸ concludes.whole (level.isOpen.trans closed)⟩

/-- A flow collection that is open when the text ends stays open. -/
theorem isCut_of_inFlow {t : Tokens} (sound : l.Sound) (inFlow : l.inFlow = true)
    (symbols : t.tokens.map Token.symbol = l.ending.reverse) : t.IsCut := by
  intro before after cut
  have unended : Symbol.textEnd ∉ (l.tokens.map Token.symbol).reverse := by
    intro mem
    obtain ⟨s, mem, ends⟩ := List.mem_map.mp (List.mem_reverse.mp mem)
    exact sound.unended s mem ends
  rw [symbols, ending, if_pos inFlow, List.replicate_zero, List.nil_append, List.reverse_cons] at cut
  obtain ⟨rfl, -, -⟩ := (List.append_cons_inj_of_notMem unended List.not_mem_nil).mp cut
  rw [← List.map_reverse, flows_reverse, sound.flows]
  simpa [inFlow, Layout.inFlow] using inFlow

theorem run_of_end (sound : l.Sound) (done : (passGaps (n + 1) l).cursor.rest = []) : Concludes l (run none (n + 1) l) := by
  have level := (moves_passGaps (n + 1) l).level
  refine .of_level ?_ level
  have sound' := level.sound sound
  rw [run_succ sound.going, next_eq]
  generalize passGaps (n + 1) l = g at done sound' ⊢
  cases after : g.afterGap with
  | error fault =>
    refine ⟨fun _ => resume_error sound n fault, fun closed => ?_⟩
    obtain ⟨a, ok⟩ := exists_afterGap done closed
    rw [after] at ok
    cases ok
  | ok a =>
    obtain ⟨ended, symbols, settled, -⟩ := afterGap_yields done a after
    have whole : (run none n a).tokens.map Token.symbol = g.ending.reverse := by
      rw [run_ended ended, ← symbols, List.map_reverse]
    refine ⟨fun opened => isCut_of_inFlow sound' ?_ whole, fun _ => ⟨whole, by rw [resume, run_ended ended]⟩⟩
    simpa [isOpen, settled] using opened

theorem run_of_spent (sound : l.Sound) (spent : Spent l.cursor.rest) (enough : l.cursor.rest.length < n) :
    Concludes l (run none n l) := by
  obtain _ | n := n
  · exact absurd enough (Nat.not_lt_zero _)
  · exact run_of_end sound (passGaps_of_spent spent enough)

/-- Nothing changes when candidates are dropped that the end of the text would drop. -/
theorem resume_of_spent (sound : l.Sound) (sound' : a.Sound) (spent : Spent a.cursor.rest)
    (enough : Yields (fun b => b.cursor.rest.length < n) a.dropStale) : Concludes a (l.resume n a.dropStale) := by
  cases dropped : a.dropStale with
  | error fault =>
    refine ⟨fun _ => resume_error sound n fault, fun closed => ?_⟩
    obtain ⟨b, ok⟩ := exists_dropStale closed
    rw [dropped] at ok
    cases ok
  | ok b =>
    obtain ⟨level, same⟩ := dropStale_yields a b dropped
    exact .of_level (run_of_spent (level.sound sound') (by rw [same]; exact spent) (enough b dropped)) level

/-- Behind a gap either reading fails, or one token is read. -/
theorem afterGap_cases (more : l.cursor.rest ≠ []) :
    (∃ e e', l.afterGap = .error e ∧ (w.layout l).afterGap = .error e') ∨
      ∃ a, Steps l a ∧ l.afterGap = a.dropStale ∧
        ((∃ b, (w.layout l).afterGap = b.dropStale ∧ Meets w a b) ∨ Dangles w l a) := by
  have fresh : Agree (Settles w l) l.dropStale (w.layout l).dropStale := dropStale_agree
  unfold afterGap
  obtain ⟨e, e', fails, fails'⟩ | ⟨c, _, kept, kept', rfl, keeps⟩ := fresh.cases
  · rw [fails, fails']
    exact .inl ⟨e, e', rfl, rfl⟩
  · rw [kept, kept']
    have closed : (w.layout c).closeBlocks (some (w.layout c).mark.column) = w.layout (c.closeBlocks (some c.mark.column)) :=
      layout_closeBlocks ..
    simp only [bind, Except.bind]
    rw [closed]
    have keeps := keeps.trans (Keeps.closeBlocks (some c.mark.column))
    generalize c.closeBlocks (some c.mark.column) = c at keeps
    have reads := token_reads (w := w) (l := c) (by rw [keeps.cursor]; exact more)
    cases read : c.token with
    | error e =>
      obtain ⟨e', fails⟩ := reads.fails e read
      exact .inl ⟨e, e', rfl, by rw [fails]⟩
    | ok a =>
      have steps := reads.steps a read
      refine .inr ⟨a, ⟨keeps.cursor ▸ steps.passes, steps.sound ∘ keeps.sound⟩, rfl, ?_⟩
      obtain ⟨b, ok, meets⟩ | last := reads.meets a read
      · exact .inl ⟨b, by rw [ok], meets⟩
      · exact .inr ⟨last.ends, last.fresh, fun sheds => last.takes ⟨keeps.cursor ▸ sheds.1, sheds.2⟩⟩

theorem afterGap_steps (more : l.cursor.rest ≠ []) : Yields (Steps l) l.afterGap := by
  obtain ⟨e, _, fails, -⟩ | ⟨a, steps, next, -⟩ := afterGap_cases (w := ⟨0, 0, [], nofun⟩) more
  · rw [fails]
    exact .error
  · rw [next]
    exact (dropStale_yields a).mono fun b ⟨level, same⟩ => ⟨by rw [same]; exact steps.passes, level.sound ∘ steps.sound⟩

theorem afterGap_shorter (more : l.cursor.rest ≠ []) :
    Yields (fun a => a.cursor.rest.length < l.cursor.rest.length) l.afterGap :=
  (afterGap_steps more).mono fun _ steps => Nat.lt_of_le_of_lt steps.passes.length_le (length_skip more)

theorem done_of_isVerbatimEnd (ends : l.isVerbatimEnd = true) : l.cursor.rest = [] :=
  List.isEmpty_iff.mp (Bool.and_eq_true_iff.mp ends).1

/-- How the block scalar is chomped that reading is right behind when it comes to the end of the text. -/
def verbatimEnd? : Nat → Layout → Option Verbatim.Chomping
  | 0, _ => none
  | limit + 1, l =>
    match l.next limit with
    | .ok next =>
      if next.isVerbatimEnd then some (Verbatim.chompingAt (passGaps (limit + 1) l).cursor) else verbatimEnd? limit next
    | .error _ => none

/-- Where nothing is left to be read, reading is not right behind a block scalar. -/
theorem verbatimEnd?_of_end (done : (passGaps n l).cursor.rest = []) : verbatimEnd? n l = none := by
  induction n generalizing l with
  | zero => rfl
  | succ n ih =>
    rw [verbatimEnd?, next_eq]
    cases after : (passGaps (n + 1) l).afterGap with
    | error e => rfl
    | ok a =>
      have ended := afterGap_yields done a after
      have last : a.isVerbatimEnd = false := by
        obtain ⟨t, tokens, cons, symbol, -⟩ := List.map_eq_cons_iff.mp ended.symbols
        rw [isVerbatimEnd, cons, List.head?_cons, Option.any_some, symbol]
        exact Bool.and_false _
      have none_ : a.cursor.rest = [] := ended.rest.trans done
      dsimp only
      rw [if_neg (by simp [last])]
      cases n with
      | zero => rfl
      | succ n => exact ih (passGaps_of_spent (.of_nil none_) (by rw [none_]; exact Nat.succ_pos n))

/-- After a token that has not come to the end of the text, reading goes on alike if it does from what is left. -/
theorem resume_alike {l' : Layout} (sound : l.Sound) (sound' : l'.Sound) (steps : a.Sound)
    (enough : Yields (fun e => e.cursor.rest.length < n) a.dropStale)
    (enough' : Yields (fun e => e.cursor.rest.length < m) (w.layout a).dropStale)
    (next : ∀ e, a.dropStale = .ok e → e.Sound → e.cursor.rest.length < n → (w.layout e).cursor.rest.length < m →
      (run none n e).Alike (run none m (w.layout e))) :
    (l.resume n a.dropStale).Alike (l'.resume m (w.layout a).dropStale) := by
  have fresh : Agree (Settles w a) a.dropStale (w.layout a).dropStale := dropStale_agree
  obtain ⟨e, e', fails, fails'⟩ | ⟨e, _, left, left', rfl, keeps⟩ := fresh.cases
  · rw [fails, fails']
    exact .inl ⟨resume_error sound n e, resume_error sound' m e'⟩
  · rw [left, left']
    exact next e left (keeps.sound steps) (enough e left) (enough' _ left')

/-- The tokens of a text do not depend on the margin around it, if no block scalar takes what follows. -/
theorem run_alike (sound : l.Sound) (enough : l.cursor.rest.length < n) (enough' : (w.layout l).cursor.rest.length < m)
    (calm : ∀ k ∈ verbatimEnd? n l, k = .strip ∧ Bare w.after) : (run none n l).Alike (run none m (w.layout l)) := by
  induction n generalizing l m with
  | zero => exact absurd enough (Nat.not_lt_zero _)
  | succ n ih =>
    obtain _ | m := m
    · exact absurd enough' (Nat.not_lt_zero _)
    have sound' : (w.layout l).Sound := (level_layout l).sound sound
    obtain ⟨more, same⟩ | ⟨done, done'⟩ := passGaps_layout enough enough'
    · have moves := moves_passGaps (n + 1) l
      rw [run_succ sound.going, run_succ sound'.going, next_eq, next_eq, same]
      rw [verbatimEnd?, next_eq] at calm
      have length := moves.passes.length_le
      have gapSound := moves.level.sound sound
      generalize passGaps (n + 1) l = g at more same calm length gapSound ⊢
      have longer (l : Layout) : (w.layout l).cursor.rest.length = l.cursor.rest.length + w.after.length := List.length_append
      obtain ⟨e, e', fails, fails'⟩ | ⟨a, steps, next, reached⟩ := afterGap_cases (w := w) more
      · rw [fails, fails']
        exact .inl ⟨resume_error sound n e, resume_error sound' m e'⟩
      have soundA := steps.sound gapSound
      have more' : (w.layout g).cursor.rest ≠ [] := fun none_ => more (List.append_eq_nil_iff.mp none_).1
      have shorter : Yields (fun e => e.cursor.rest.length < n) g.afterGap := (afterGap_shorter more).mono fun _ _ => by omega
      have shorter' : Yields (fun e => e.cursor.rest.length < m) (w.layout g).afterGap :=
        (afterGap_shorter more').mono fun _ _ => by
          have whole := longer l
          have part := longer g
          omega
      rw [next] at calm shorter ⊢
      obtain ⟨b, ok, rfl | ⟨done, spent, level⟩⟩ | last := reached
      · -- the token has been read in the text, and what is left is shorter
        rw [ok] at shorter' ⊢
        refine resume_alike sound sound' soundA shorter shorter' fun e left sound enough enough' => ?_
        rw [left] at calm
        dsimp only at calm
        by_cases last : e.isVerbatimEnd = true
        · have done := done_of_isVerbatimEnd last
          have here := run_of_spent sound (Spent.of_nil done) enough
          exact here.alike (run_of_spent ((level_layout e).sound sound) (w.spent_cursor done) enough') (level_layout e)
        · rw [if_neg last] at calm
          exact ih sound enough enough' calm
      · -- the token comes to the end of the text, and within the margin nothing else follows
        rw [ok] at shorter' ⊢
        have here := resume_of_spent sound soundA (Spent.of_nil done) shorter
        exact here.alike (resume_of_spent sound' (level.sound soundA) spent shorter') level
      · rw [last.fresh] at calm
        simp only [last.ends, if_true, Option.mem_some_iff, forall_eq'] at calm
        exact absurd calm last.takes
    · exact (run_of_end sound done).alike (run_of_end sound' done') (level_layout l)

/-- A text with an obstacle is cut off before it ends. -/
theorem run_of_obstacle {o : Obstacle} (sound : l.Sound) (near : o.limit ≤ l.cursor.mark.offset + Utf8.size l.cursor.rest) :
    (run (some o) n l).IsCut := by
  induction n generalizing l with
  | zero => exact Tokens.isCut_of_unended fun s mem => sound.unended s (List.mem_reverse.mp mem)
  | succ n ih =>
    have stopped (fault : Malformed) : (l.resume n (.error fault)).IsCut := resume_error sound n fault
    rw [run, if_neg (by simp [sound.going])]
    cases next : l.next n with
    | error fault => exact stopped _
    | ok a =>
      dsimp only
      split_ifs with met
      · exact stopped _
      · have passed := (moves_passGaps (n + 1) l).passes.total
        have sound' := (moves_passGaps (n + 1) l).level.sound sound
        have far : a.cursor.mark.offset < o.limit := by
          simp only [Obstacle.isMetBy, Bool.or_eq_true, decide_eq_true_eq, not_or, Nat.not_le] at met
          exact met.1
        rw [next_eq] at next
        generalize passGaps (n + 1) l = g at passed sound' next
        by_cases done : g.cursor.rest = []
        · have offset : a.cursor.mark.offset = g.cursor.mark.offset := (afterGap_yields done a next).offset
          rw [done, Utf8.size_nil] at passed
          omega
        · have steps := afterGap_steps done a next
          have passed' := ((Passes.skip g.cursor).trans steps.passes).total
          exact ih (steps.sound sound') (by omega)

end Layout

section Text

variable {text : List Char}

theorem count_nil : 0 = ([] : List Token).length :=
  List.length_nil.symm

/-- How the block scalar is chomped that a text ends in, if it ends in one. -/
def verbatimEnd? (text : List Char) : Option Verbatim.Chomping :=
  Layout.verbatimEnd? (text.length + 1) { cursor := ⟨{}, text⟩, count_eq := count_nil }

theorem drop_takeWhile (p : Char → Bool) (text : List Char) : text.drop (text.takeWhile p).length = text.dropWhile p := by
  induction text with
  | nil => rfl
  | cons x text ih =>
    cases holds : p x with
    | true => rw [List.takeWhile_cons_of_pos holds, List.dropWhile_cons_of_pos holds, List.length_cons, List.drop_succ_cons, ih]
    | false => simp [holds]

theorem obstacle?_eq_none_iff : obstacle? text = none ↔ ∀ x ∈ text, isAllowed x = true := by
  rw [← List.dropWhile_eq_nil_iff, obstacle?, drop_takeWhile]
  cases text.dropWhile isAllowed <;> simp

theorem Spent.isAllowed {text : List Char} (spent : Spent text) : ∀ x ∈ text, isAllowed x = true :=
  fun x mem => (by decide : ∀ x ∈ pads, Yaml.isAllowed x = true) x (spent.mem_pads mem)

theorem obstacle?_append_eq_none_iff {start after : List Char} (spent : Spent start) (spent' : Spent after) :
    obstacle? (start ++ (text ++ after)) = none ↔ obstacle? text = none := by
  rw [obstacle?_eq_none_iff, obstacle?_eq_none_iff, List.forall_mem_append, List.forall_mem_append]
  exact ⟨fun ⟨_, all, _⟩ => all, fun all => ⟨spent.isAllowed, all, spent'.isAllowed⟩⟩

theorem size_beforeStretch_le (before stretch : List Char) (size : Nat) (text : List Char) :
    Utf8.size (beforeStretch before stretch size text) ≤ Utf8.size before + Utf8.size stretch + Utf8.size text := by
  induction text generalizing before stretch size with
  | nil =>
    rw [beforeStretch]
    omega
  | cons c text ih =>
    have cons (rest : List Char) : Utf8.size (c :: rest) = c.utf8Size + Utf8.size rest := rfl
    rw [beforeStretch, cons]
    split_ifs
    · have bound := ih before (c :: stretch) (size + c.utf8Size)
      rw [cons] at bound
      omega
    · have bound := ih (stretch ++ before) [c] c.utf8Size
      rw [Utf8.size_append, cons, Utf8.size_nil] at bound
      omega

theorem limit_le {o : Obstacle} (found : obstacle? text = some o) : o.limit ≤ Utf8.size text := by
  have parts := List.takeWhile_append_dropWhile (p := isAllowed) (l := text)
  rw [obstacle?, drop_takeWhile] at found
  cases left : text.dropWhile isAllowed with
  | nil =>
    rw [left] at found
    cases found
  | cons c rest =>
    rw [left] at found parts
    obtain rfl := Option.some.inj found
    have bound := size_beforeStretch_le [] [] 0 (text.takeWhile isAllowed ++ [c])
    rw [show Utf8.size [] + Utf8.size [] = 0 from rfl, Nat.zero_add] at bound
    calc Utf8.size (beforeStretch [] [] 0 (text.takeWhile isAllowed ++ [c]))
        ≤ Utf8.size (text.takeWhile isAllowed ++ [c]) := bound
      _ ≤ Utf8.size (text.takeWhile isAllowed ++ [c]) + Utf8.size rest := Nat.le_add_right _ _
      _ = Utf8.size text := by rw [← Utf8.size_append, List.append_assoc, List.singleton_append, parts]

/-- What is not allowed in a text is met before its end. -/
theorem tokens_isCut {o : Obstacle} (found : obstacle? text = some o) : (tokens text).IsCut := by
  rw [tokens, found]
  refine Layout.run_of_obstacle ⟨rfl, rfl, nofun⟩ ?_
  have limit := limit_le found
  exact (Nat.zero_add _).symm ▸ limit

/-- Blanks around a text change nothing if they change nothing of a run that comes to its end. -/
theorem tokens_alike_of_run {start after : List Char} (spent : Spent start) (spent' : Spent after)
    (runs : (Layout.run none (text.length + 1) { cursor := ⟨{}, text⟩ }).Alike
      (Layout.run none ((start ++ (text ++ after)).length + 1) { cursor := ⟨{}, start ++ (text ++ after)⟩ })) :
    (tokens text).Alike (tokens (start ++ (text ++ after))) := by
  have same : obstacle? (start ++ (text ++ after)) = none ↔ obstacle? text = none := obstacle?_append_eq_none_iff spent spent'
  cases found : obstacle? text with
  | some o =>
    cases found' : obstacle? (start ++ (text ++ after)) with
    | none =>
      rw [same.mp found'] at found
      cases found
    | some o' => exact .inl ⟨tokens_isCut found, tokens_isCut found'⟩
  | none =>
    rw [tokens, tokens, found, same.mpr found]
    exact runs

/-- If the gap before a text leads to the text as it stands within a margin, the text is read from there. -/
theorem run_alike_of_gap {start after : List Char} {line : Nat} {c : Cursor} (spent' : Spent after)
    (gap : Layout.passGaps ((start ++ (c.rest ++ after)).length + 1) { cursor := ⟨{}, start ++ (c.rest ++ after)⟩ } =
      Layout.passGaps ((start ++ (c.rest ++ after)).length + 1)
        { cursor := (⟨Utf8.size start, line, after, spent'⟩ : Margin).cursor c })
    (calm : ∀ k ∈ Layout.verbatimEnd? (c.rest.length + 1) { cursor := c, count_eq := count_nil }, k = .strip ∧ Bare after) :
    (Layout.run none (c.rest.length + 1) { cursor := c }).Alike
      (Layout.run none ((start ++ (c.rest ++ after)).length + 1) { cursor := ⟨{}, start ++ (c.rest ++ after)⟩ }) := by
  let w : Margin := ⟨Utf8.size start, line, after, spent'⟩
  have moved : Layout.run none ((start ++ (c.rest ++ after)).length + 1) { cursor := ⟨{}, start ++ (c.rest ++ after)⟩ } =
      Layout.run none ((start ++ (c.rest ++ after)).length + 1) (w.layout { cursor := c }) := by
    rw [Layout.run_succ rfl, Layout.run_succ rfl, Layout.next_eq, Layout.next_eq, gap]
    rfl
  rw [moved]
  refine Layout.run_alike ⟨rfl, rfl, nofun⟩ (Nat.lt_succ_self _) ?_ calm
  change (c.rest ++ after).length < (start ++ (c.rest ++ after)).length + 1
  exact Nat.lt_succ_of_le (List.suffix_append start (c.rest ++ after)).length_le

/-- The last line of a block scalar can be the end of a text, and then its chomping counts. -/
example : verbatimEnd? "a: |-\n  x".toList = some .strip ∧ verbatimEnd? "a: |\n  x\nb: y".toList = none := by decide +kernel

end Text

end Frontmark.Yaml
