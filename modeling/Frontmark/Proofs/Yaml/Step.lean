import Frontmark.Proofs.Yaml.Layout

/-! Every kind of token, within a margin. -/

set_option autoImplicit false

namespace Frontmark.Yaml

/-- Whether a symbol is a block scalar. -/
def Symbol.isVerbatim : Symbol → Bool
  | scalar .literal _ | scalar .folded _ => true
  | _ => false

namespace Layout

open Frontmark.Text

/-- A text is being read, and candidates are kept for as many flow collections as are open. -/
structure Sound (l : Layout) : Prop where
  going : l.ended = false
  flows : openFlows l.tokens = l.enclosing.length
  unended : ∀ t ∈ l.tokens, t.symbol ≠ .textEnd

/-- At least one character is between `l` and `a`. -/
structure Steps (l a : Layout) : Prop where
  passes : Passes l.cursor.skip a.cursor
  sound : l.Sound → a.Sound

/-- Whether a key has begun that is not to be had without its colon. -/
def isKeyPending (l : Layout) : Bool :=
  l.candidate?.any Candidate.required

/-- What the end of the text makes of two layouts is the same. -/
structure Level (a b : Layout) : Prop where
  symbols : b.tokens.map Token.symbol = a.tokens.map Token.symbol
  indents : b.indents.length = a.indents.length
  enclosing : b.enclosing.length = a.enclosing.length
  pending : b.isKeyPending = a.isKeyPending
  ended : b.ended = a.ended

/-- `b` is `a` within a margin, or both are behind all that counts. -/
def Meets (w : Margin) (a b : Layout) : Prop :=
  b = w.layout a ∨ a.cursor.rest = [] ∧ Spent b.cursor.rest ∧ Level a b

def Advances (w : Margin) (l a b : Layout) : Prop :=
  Steps l a ∧ Meets w a b

variable {w : Margin} {l a b : Layout}

theorem Keeps.sound (keeps : Keeps l a) (sound : l.Sound) : a.Sound :=
  ⟨keeps.ended.trans sound.going, by rw [keeps.flows, keeps.enclosing, sound.flows], keeps.unended sound.unended⟩

theorem Keeps.inFlow (keeps : Keeps l a) : a.inFlow = l.inFlow := by
  have length := keeps.enclosing
  rw [Layout.inFlow, Layout.inFlow]
  cases first : a.enclosing <;> cases second : l.enclosing <;> simp_all

theorem symbols_layout (l : Layout) : (w.layout l).tokens.map Token.symbol = l.tokens.map Token.symbol := by
  simp [Margin.layout, Margin.token]

theorem level_layout (l : Layout) : Level l (w.layout l) := by
  refine ⟨symbols_layout l, rfl, by simp [Margin.layout], ?_, rfl⟩
  rw [isKeyPending, isKeyPending, Margin.layout]
  cases l.candidate? <;> rfl

theorem layout_openHere (symbol : Symbol) :
    (w.layout l).openBlock (w.layout l).mark.column none (w.layout l).mark symbol =
      w.layout (l.openBlock l.mark.column none l.mark symbol) :=
  layout_openBlock ..

/-- The place does not matter. -/
theorem Level.elsewhere (level : Level a b) {c d : Cursor} {k k' : Bool} :
    Level { a with cursor := c, keyAllowed := k } { b with cursor := d, keyAllowed := k' } :=
  ⟨level.symbols, level.indents, level.enclosing, level.pending, level.ended⟩

/-- One token that is no bracket is put behind the others. -/
theorem steps_of_keeps {t : Token} (keeps : Keeps l a) (plain : t.symbol.isPlain = true) (tokens : b.tokens = t :: a.tokens)
    (enclosing : b.enclosing = a.enclosing) (ended : b.ended = a.ended) (passes : Passes l.cursor.skip b.cursor) :
    Steps l b := by
  refine ⟨passes, fun sound => ?_⟩
  have sound := keeps.sound sound
  refine ⟨ended.trans sound.going, ?_, ?_⟩
  · rw [tokens, openFlows_cons_of_isPlain plain, enclosing, sound.flows]
  · rw [tokens]
    intro s mem
    rcases List.mem_cons.mp mem with rfl | mem
    · exact fun same => by simp [same, Symbol.isPlain] at plain
    · exact sound.unended s mem

theorem passes_take (keeps : Keeps l a) (n : Nat) : Passes l.cursor.skip (a.cursor.skipMany (n + 1)) :=
  keeps.cursor ▸ Passes.skip_skipMany n a.cursor

theorem layout_take_one (more : l.cursor.rest ≠ []) (keeps : Keeps l a) (symbol : Symbol) :
    (w.layout a).take 1 symbol = w.layout (a.take 1 symbol) :=
  layout_take (by rw [keeps.cursor]; exact List.length_pos_iff.mpr more) symbol

section Marks

variable (more : l.cursor.rest ≠ [])
include more

theorem comma_agree : Agree (Advances w l) l.comma (w.layout l).comma := by
  refine dropCandidate_agree.bind ?_
  rintro a _ ⟨rfl, keeps⟩
  rw [layout_take_one more keeps]
  exact ⟨steps_of_keeps keeps rfl rfl rfl rfl (passes_take keeps 0), .inl rfl⟩

theorem openFlow_agree {symbol : Symbol} (opens : symbol = .sequenceStart ∨ symbol = .mappingStart) :
    Agree (Advances w l) (l.openFlow symbol) ((w.layout l).openFlow symbol) := by
  refine noteCandidate_agree.bind ?_
  rintro a _ ⟨rfl, keeps⟩
  rw [layout_take_one more keeps]
  refine ⟨⟨passes_take keeps 0, fun sound => ?_⟩, .inl rfl⟩
  have sound := keeps.sound sound
  refine ⟨sound.going, ?_, fun t mem => ?_⟩
  · obtain rfl | rfl := opens <;> exact congrArg (· + 1) sound.flows
  · rcases List.mem_cons.mp mem with rfl | mem
    · obtain rfl | rfl := opens <;> exact nofun
    · exact sound.unended t mem

theorem closeFlow_agree {symbol : Symbol} (closes : symbol = .sequenceEnd ∨ symbol = .mappingEnd) :
    Agree (Advances w l) (l.closeFlow symbol) ((w.layout l).closeFlow symbol) := by
  refine dropCandidate_agree.bind ?_
  rintro a _ ⟨rfl, keeps⟩
  rw [layout_take_one more keeps]
  have unended (sound : l.Sound) : ∀ t ∈ (a.take 1 symbol).tokens, t.symbol ≠ .textEnd := by
    intro t mem
    rcases List.mem_cons.mp mem with rfl | mem
    · obtain rfl | rfl := closes <;> exact nofun
    · exact (keeps.sound sound).unended t mem
  have flows (sound : l.Sound) : openFlows (a.take 1 symbol).tokens = a.enclosing.length - 1 := by
    rw [← (keeps.sound sound).flows]
    obtain rfl | rfl := closes <;> rfl
  dsimp only [Margin.layout, take, put, add]
  cases enclosing : a.enclosing with
  | nil =>
    refine ⟨⟨passes_take keeps 0, fun sound => ⟨(keeps.sound sound).going, ?_, unended sound⟩⟩, .inl ?_⟩
    · exact (flows sound).trans (by rw [enclosing]; rfl)
    · simp [Margin.layout]
  | cons k? others =>
    refine ⟨⟨passes_take keeps 0, fun sound => ⟨(keeps.sound sound).going, ?_, unended sound⟩⟩, .inl ?_⟩
    · exact (flows sound).trans (by rw [enclosing, List.length_cons, Nat.add_sub_cancel])
    · simp [Margin.layout]

theorem dash_agree : Agree (Advances w l) l.dash (w.layout l).dash := by
  unfold dash
  rw [layout_inFlow]
  refine .ite Iff.rfl (fun _ => trivial) fun _ => ?_
  rw [layout_openHere]
  refine dropCandidate_agree.bind ?_
  rintro a _ ⟨rfl, keeps⟩
  have keeps := (Keeps.openBlock (l := l) l.mark.column none l.mark .blockSequence rfl).trans keeps
  rw [layout_take_one more keeps]
  exact ⟨steps_of_keeps keeps rfl rfl rfl rfl (passes_take keeps 0), .inl rfl⟩

theorem key_agree : Agree (Advances w l) l.key (w.layout l).key := by
  unfold key
  rw [layout_inFlow]
  refine .ite Iff.rfl (fun _ => trivial) fun _ => ?_
  rw [layout_openHere]
  refine dropCandidate_agree.bind ?_
  rintro a _ ⟨rfl, keeps⟩
  have keeps := (Keeps.openBlock (l := l) l.mark.column none l.mark .blockMapping rfl).trans keeps
  rw [layout_take_one more keeps, layout_inFlow]
  exact ⟨steps_of_keeps keeps rfl rfl rfl rfl (passes_take keeps 0), .inl rfl⟩

theorem value_agree : Agree (Advances w l) l.value (w.layout l).value := by
  unfold value
  rw [show (w.layout l).candidate? = l.candidate?.map w.candidate from rfl]
  cases candidate : l.candidate? with
  | some k =>
    have opened : ((w.layout l).insertAt k.position ⟨w.mark k.mark, .key⟩).openBlock k.mark.column (some k.position)
        (w.mark k.mark) .blockMapping =
          w.layout ((l.insertAt k.position ⟨k.mark, .key⟩).openBlock k.mark.column (some k.position) k.mark .blockMapping) := by
      rw [← layout_openBlock, ← layout_insertAt]
      rfl
    have keeps := (Keeps.insertAt (l := l) k.position (t := ⟨k.mark, .key⟩) rfl).trans
      (Keeps.openBlock k.mark.column (some k.position) k.mark .blockMapping rfl)
    have taken := layout_take_one (w := w) more keeps .value
    rw [← opened] at taken
    exact ⟨steps_of_keeps keeps rfl rfl rfl rfl (passes_take keeps 0),
      .inl (congrArg (fun b : Layout => { b with candidate? := none, keyAllowed := false }) taken)⟩
  | none =>
    dsimp only [Option.map_none]
    rw [layout_inFlow]
    refine .ite Iff.rfl (fun _ => trivial) fun _ => ?_
    have keeps := Keeps.openBlock (l := l) l.mark.column none l.mark .blockMapping rfl
    rw [layout_openHere, layout_take_one more keeps, layout_inFlow]
    exact ⟨steps_of_keeps keeps rfl rfl rfl rfl (passes_take keeps 0), .inl rfl⟩

end Marks

theorem documentLine_agree {symbol : Symbol} (plain : symbol.isPlain = true) (line : l.cursor.isDocumentLine = true) :
    Agree (Advances w l) (l.documentLine symbol) ((w.layout l).documentLine symbol) := by
  have enough : 3 ≤ l.cursor.rest.length := by
    unfold Cursor.isDocumentLine at line
    split at line
    case h_1 same | h_2 same => simp [same]
    case h_3 => simp at line
  unfold documentLine
  rw [layout_closeBlocks]
  refine dropCandidate_agree.bind ?_
  rintro a _ ⟨rfl, keeps⟩
  have keeps := (Keeps.closeBlocks (l := l) none).trans keeps
  rw [layout_take (by rw [keeps.cursor]; exact enough)]
  exact ⟨steps_of_keeps keeps plain rfl rfl rfl (passes_take keeps 2), .inl rfl⟩

theorem passes_read (keeps : Keeps l a) {d : Cursor} (passes : Passes a.cursor.skip d) : Passes l.cursor.skip d :=
  keeps.cursor ▸ passes

theorem readVersion_yields {start : Mark} {c : Cursor} : Yields (fun r => r.1.isPlain = true) (readVersion start c) := by
  refine .bind_last fun r => .ite (fun _ => ?_) fun _ => .error
  exact .bind_last fun _ => .ok rfl

theorem readShorthand_yields {start : Mark} {c : Cursor} : Yields (fun r => r.1.isPlain = true) (readShorthand start c) := by
  unfold readShorthand
  refine .ite (fun _ => .error) fun _ => .ite (fun _ => .error) fun _ => .ite (fun _ => .error) fun _ => ?_
  exact .bind_last fun _ => .ite (fun _ => .ok rfl) fun _ => .error

theorem readDirective_yields {c : Cursor} : Yields (fun r => r.1.symbol.isPlain = true) (readDirective c) := by
  unfold readDirective
  refine .ite (fun _ => .error) fun _ => .ite (fun _ => .error) fun _ => .ite (fun _ => ?_) fun _ => .ite (fun _ => ?_) fun _ => .error
  · exact readVersion_yields.bind fun r plain => .ite (fun _ => .ok plain) fun _ => .error
  · exact readShorthand_yields.bind fun r plain => .ite (fun _ => .ok plain) fun _ => .error

theorem readTag_yields {c : Cursor} : Yields (fun r => r.1.symbol.isPlain = true) (readTag c) := by
  unfold readTag
  refine .ite (fun _ => .bind_last fun _ => .ite (fun _ => .ok rfl) fun _ => .error) fun _ => .ite (fun _ => ?_) fun _ => ?_
  · exact .bind_last fun _ => .ok rfl
  · refine .bind_last fun _ => .ok ?_
    dsimp only
    split_ifs <;> rfl

section Reading

variable (more : l.cursor.rest ≠ [])
include more

theorem name_agree {construct : Construct} {symbol : List Char → Symbol} (plain : ∀ name, (symbol name).isPlain = true) :
    Agree (Advances w l) (l.name construct symbol) ((w.layout l).name construct symbol) := by
  refine noteCandidate_agree.bind ?_
  rintro a _ ⟨rfl, keeps⟩
  refine (readAnchor_agree (by rw [keeps.cursor]; exact more)).bind ?_
  rintro ⟨name, next⟩ _ ⟨rfl, passes⟩
  exact ⟨steps_of_keeps keeps (plain name) rfl rfl rfl (passes_read keeps passes), .inl rfl⟩

theorem quoted_agree {style : Style} {quote : Char} (isQuote : quote = '\'' ∨ quote = '"') :
    Agree (Advances w l) (l.quoted style quote) ((w.layout l).quoted style quote) := by
  refine noteCandidate_agree.bind ?_
  rintro a _ ⟨rfl, keeps⟩
  refine (Quoted.quoted_agree isQuote (by rw [keeps.cursor]; exact more)).bind ?_
  rintro ⟨text, next⟩ _ ⟨rfl, passes⟩
  exact ⟨steps_of_keeps keeps rfl rfl rfl rfl (passes_read keeps passes), .inl rfl⟩

theorem tag_agree : Agree (Advances w l) l.tag (w.layout l).tag := by
  refine noteCandidate_agree.bind ?_
  rintro a _ ⟨rfl, keeps⟩
  rw [layout_inFlow]
  have yields : Yields (fun r => r.1.symbol.isPlain = true) (readTagAlone a.inFlow a.cursor) :=
    readTag_yields.bind fun r plain => .ite (fun _ => .ok plain) fun _ => .error
  refine ((readTagAlone_agree a.inFlow (by rw [keeps.cursor]; exact more)).and_yields yields).bind ?_
  rintro ⟨token, next⟩ _ ⟨⟨rfl, passes⟩, plain⟩
  exact ⟨steps_of_keeps keeps (t := token) plain rfl rfl rfl (passes_read keeps passes), .inl rfl⟩

theorem directive_agree : Agree (Advances w l) l.directive (w.layout l).directive := by
  unfold directive
  rw [layout_closeBlocks]
  refine dropCandidate_agree.bind ?_
  rintro a _ ⟨rfl, keeps⟩
  have keeps := (Keeps.closeBlocks (l := l) none).trans keeps
  refine ((readDirective_agree (by rw [keeps.cursor]; exact more)).and_yields readDirective_yields).bind ?_
  rintro ⟨token, next⟩ ⟨token', next'⟩ ⟨⟨rfl, follows, passes⟩, plain⟩
  refine ⟨steps_of_keeps keeps (t := token) plain rfl rfl rfl (passes_read keeps passes), ?_⟩
  by_cases done : next.rest = []
  · exact .inr ⟨done, follows.spent done, (level_layout (a.add token)).elsewhere⟩
  · obtain rfl := follows.eq_cursor done
    exact .inl rfl

end Reading

theorem plain_agree (starts : Plain.canStart l.inFlow l.cursor.rest = true) (ordinary : l.cursor.isDocumentLine = false) :
    Agree (Advances w l) l.plain (w.layout l).plain := by
  refine noteCandidate_agree.bind ?_
  rintro a _ ⟨rfl, keeps⟩
  rw [layout_inFlow]
  rw [← keeps.inFlow, ← keeps.cursor] at starts
  rw [← keeps.cursor] at ordinary
  refine (Plain.plain_agree starts ordinary).bind ?_
  rintro s s' ⟨text, passes, ends⟩
  refine ⟨steps_of_keeps keeps (t := ⟨a.mark, .scalar .plain s.text⟩) rfl rfl rfl rfl (passes_read keeps passes), ?_⟩
  obtain ⟨next, broken⟩ | ⟨done, spent⟩ := ends
  · refine .inl ?_
    rw [text, next, broken]
    rfl
  · refine .inr ⟨done, spent, ?_⟩
    rw [text]
    exact (level_layout (a.put a.mark (.scalar .plain s.text))).elsewhere

/-- Whether the text is at its end, right behind a block scalar. -/
def isVerbatimEnd (l : Layout) : Bool :=
  l.cursor.rest.isEmpty && l.tokens.head?.any (·.symbol.isVerbatim)

/-- A block scalar that ends with its text stays as it is when it is stripped and only line breaks follow. -/
def Sheds (w : Margin) (l : Layout) : Prop :=
  Verbatim.chompingAt l.cursor = .strip ∧ Bare w.after

/-- The text ends with `a` in the block scalar at `l`, which takes what follows. -/
structure Dangles (w : Margin) (l a : Layout) : Prop where
  ends : a.isVerbatimEnd = true
  fresh : a.dropStale = .ok a
  takes : ¬ Sheds w l

/-- One token is read from `l` on, and the same within a margin, unless it is a block scalar that the text ends in. -/
structure Reads (w : Margin) (l : Layout) (x y : Except Malformed Layout) : Prop where
  steps : ∀ a, x = .ok a → Steps l a
  meets : ∀ a, x = .ok a → (∃ b, y = .ok b ∧ Meets w a b) ∨ Dangles w l a
  fails : ∀ e, x = .error e → ∃ e', y = .error e'

namespace Reads

variable {x y x' y' : Except Malformed Layout}

theorem of_agree (agree : Agree (Advances w l) x y) : Reads w l x y := by
  match x, y with
  | .ok a, .ok b =>
    refine ⟨?_, ?_, nofun⟩
    · rintro _ ⟨⟩
      exact agree.1
    · rintro _ ⟨⟩
      exact .inl ⟨b, rfl, agree.2⟩
  | .error _, .error e' => exact ⟨nofun, nofun, fun _ _ => ⟨e', rfl⟩⟩

theorem ite {p q : Prop} [Decidable p] [Decidable q] (same : q ↔ p) (yes : p → Reads w l x y)
    (no : ¬ p → Reads w l x' y') : Reads w l (if p then x else x') (if q then y else y') := by
  by_cases holds : p
  · rw [if_pos holds, if_pos (same.mpr holds)]
    exact yes holds
  · rw [if_neg holds, if_neg fun q => holds (same.mp q)]
    exact no holds

theorem bind {P : Layout → Prop} {f g : Layout → Except Malformed Layout}
    (agree : Agree (fun a b => Settles w l a b ∧ P a) x y)
    (next : ∀ a, Keeps l a → P a → Reads w l (f a) (g (w.layout a))) : Reads w l (x >>= f) (y >>= g) := by
  match x, y with
  | .ok a, .ok _ =>
    obtain ⟨⟨rfl, keeps⟩, holds⟩ := agree
    exact next a keeps holds
  | .error _, .error e' => exact ⟨nofun, nofun, fun _ _ => ⟨e', rfl⟩⟩

end Reads

theorem dropCandidate_of_settled (settled : l.isKeyPending = false) : l.dropCandidate = .ok { l with candidate? := none } := by
  obtain ⟨_, _, _, _, _, candidate?, _, _, _⟩ := l
  cases candidate? with
  | none => rfl
  | some k =>
    have optional : k.required = false := settled
    simp [dropCandidate, optional]

theorem dropCandidate_yields : Yields (fun a => a = { l with candidate? := none } ∧ l.isKeyPending = false) l.dropCandidate := by
  intro a ok
  cases pending : l.isKeyPending with
  | false =>
    rw [dropCandidate_of_settled pending] at ok
    exact ⟨(Except.ok.inj ok).symm, rfl⟩
  | true =>
    unfold isKeyPending at pending
    cases candidate : l.candidate? <;> simp_all [dropCandidate]

/-- Without candidates there are none that could be stale. -/
theorem dropStale_of_none (candidate : l.candidate? = none) (enclosing : l.enclosing = []) : l.dropStale = .ok l := by
  obtain ⟨_, _, _, _, _, _, _, _, _⟩ := l
  cases candidate
  cases enclosing
  rfl

theorem verbatim_reads {style : Style} (more : l.cursor.rest ≠ []) (outside : l.inFlow = false)
    (block : ∀ text, (Symbol.scalar style text).isVerbatim = true) :
    Reads w l (l.verbatim style) ((w.layout l).verbatim style) := by
  refine .bind (dropCandidate_agree.and_yields dropCandidate_yields) fun a keeps dropped => ?_
  have candidate : a.candidate? = none := by rw [dropped.1]
  have enclosing : a.enclosing = l.enclosing := by rw [dropped.1]
  have inside := Verbatim.verbatim_inside (w := w) (c := a.cursor) (style = .folded) a.indents.head? (by rw [keeps.cursor]; exact more)
  cases read : Verbatim.read (style = .folded) a.indents.head? a.cursor with
  | error e =>
    obtain ⟨e', fails⟩ := inside.fails e read
    have fails : Verbatim.read (style = .folded) (w.layout a).indents.head? (w.layout a).cursor = .error e' := fails
    rw [fails]
    exact .of_agree trivial
  | ok r =>
    have plain : (Symbol.scalar style r.1).isPlain = true := rfl
    refine ⟨?_, ?_, nofun⟩
    · rintro _ ⟨⟩
      exact steps_of_keeps keeps plain rfl rfl rfl (passes_read keeps (inside.passes r read))
    · rintro _ ⟨⟩
      by_cases done : r.2.rest = []
      · by_cases sheds : Sheds w l
        · obtain ⟨s, same, text, bare⟩ := inside.ends sheds.2 r read done
          have same : Verbatim.read (style = .folded) (w.layout a).indents.head? (w.layout a).cursor = .ok s := same
          rw [same]
          refine .inl ⟨_, rfl, .inr ⟨done, bare.spent, ?_⟩⟩
          rw [text (by rw [keeps.cursor]; exact sheds.1)]
          exact (level_layout (a.put a.mark (.scalar style r.1))).elsewhere
        · refine .inr ⟨?_, dropStale_of_none candidate ?_, sheds⟩
          · simp [isVerbatimEnd, put, add, block, done]
          · exact enclosing.trans (by simpa [inFlow] using outside)
      · have same : Verbatim.read (style = .folded) (w.layout a).indents.head? (w.layout a).cursor = .ok (r.1, w.cursor r.2) :=
          inside.same r read done
        rw [same]
        exact .inl ⟨_, rfl, .inl rfl⟩

theorem canStart_append {inFlow : Bool} {x : Char} {rest : List Char} (noDash : ¬ (x = '-' && isSeparated rest) = true) :
    Plain.canStart inFlow (x :: (rest ++ w.after)) = Plain.canStart inFlow (x :: rest) := by
  rw [Plain.canStart, Plain.canStart, w.isSeparated_append]
  split_ifs with dash
  · cases rest with
    | nil => exact absurd (by rw [dash]; rfl) noDash
    | cons y rest => rfl
  · rfl
  · rfl

/-- What stands at a place in the text is the same token within a margin. -/
theorem token_reads (more : l.cursor.rest ≠ []) : Reads w l l.token (w.layout l).token := by
  obtain ⟨x, rest, cons⟩ := List.exists_cons_of_ne_nil more
  have cons' : (w.layout l).cursor.rest = x :: (rest ++ w.after) := by
    rw [show (w.layout l).cursor = w.cursor l.cursor from rfl, Margin.cursor_rest, cons, List.cons_append]
  unfold token
  rw [cons, cons']
  dsimp only
  rw [layout_inFlow, w.isSeparated_append]
  have outside (c : Char) (both : (x = c && !l.inFlow) = true) : l.inFlow = false := by
    simpa using (Bool.and_eq_true_iff.mp both).2
  refine .ite Iff.rfl (fun _ => .of_agree (directive_agree more)) fun _ => ?_
  refine .ite (by rw [← w.isDocumentLine_cursor l.cursor]; rfl) (fun line => .of_agree (documentLine_agree (by split_ifs <;> rfl) line)) fun ordinary => ?_
  refine .ite Iff.rfl (fun _ => .of_agree (openFlow_agree more (.inl rfl))) fun _ => ?_
  refine .ite Iff.rfl (fun _ => .of_agree (openFlow_agree more (.inr rfl))) fun _ => ?_
  refine .ite Iff.rfl (fun _ => .of_agree (closeFlow_agree more (.inl rfl))) fun _ => ?_
  refine .ite Iff.rfl (fun _ => .of_agree (closeFlow_agree more (.inr rfl))) fun _ => ?_
  refine .ite Iff.rfl (fun _ => .of_agree (comma_agree more)) fun _ => ?_
  refine .ite Iff.rfl (fun _ => .of_agree (dash_agree more)) fun noDash => ?_
  refine .ite Iff.rfl (fun _ => .of_agree (key_agree more)) fun _ => ?_
  refine .ite Iff.rfl (fun _ => .of_agree (value_agree more)) fun _ => ?_
  refine .ite Iff.rfl (fun _ => .of_agree (name_agree more fun _ => rfl)) fun _ => ?_
  refine .ite Iff.rfl (fun _ => .of_agree (name_agree more fun _ => rfl)) fun _ => ?_
  refine .ite Iff.rfl (fun _ => .of_agree (tag_agree more)) fun _ => ?_
  refine .ite Iff.rfl (fun bar => verbatim_reads more (outside _ bar) fun _ => rfl) fun _ => ?_
  refine .ite Iff.rfl (fun bar => verbatim_reads more (outside _ bar) fun _ => rfl) fun _ => ?_
  refine .ite Iff.rfl (fun single => .of_agree (quoted_agree more (.inl single))) fun _ => ?_
  refine .ite Iff.rfl (fun double => .of_agree (quoted_agree more (.inr double))) fun _ => ?_
  refine .ite (by rw [canStart_append noDash]) (fun starts => .of_agree (plain_agree ?_ ?_)) fun _ => .of_agree trivial
  · rw [cons]
    exact starts
  · simpa using ordinary

end Layout

end Frontmark.Yaml
