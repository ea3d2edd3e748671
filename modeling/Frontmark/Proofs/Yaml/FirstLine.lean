import Frontmark.Proofs.Yaml.Indent
import Frontmark.Proofs.Yaml.Run
import Mathlib.Data.List.Induction

/-! The tokens of a text whose first line stands further in.

Block collections that begin on the first line stand further in with it, and the lines below do not. So the tokens are the same
if no block collection begins there, or if no other line follows (`Flat`). -/

set_option autoImplicit false

namespace Frontmark.Yaml

open Frontmark.Text

variable {n : Nat}

def Candidate.indent (n : Nat) (k : Candidate) : Candidate :=
  { k with mark := k.mark.indent n }

namespace Layout

variable {l a b : Layout} {d : Cursor} {k m : Nat}

/-- Where a column is, if the first line begins `n` columns further in. -/
def shift (n : Nat) (l : Layout) (column : Nat) : Nat :=
  if l.mark.line = 0 then n + column else column

theorem shift_le_iff {i j : Nat} : l.shift n i ≤ l.shift n j ↔ i ≤ j := by
  unfold shift
  split_ifs <;> omega

theorem shift_lt_iff {i j : Nat} : l.shift n i < l.shift n j ↔ i < j := by
  unfold shift
  split_ifs <;> omega

theorem shift_inj {i j : Nat} : l.shift n i = l.shift n j ↔ i = j := by
  unfold shift
  split_ifs <;> omega

theorem column_indent {mark : Mark} (here : mark.line = 0 ↔ l.mark.line = 0) :
    (mark.indent n).column = l.shift n mark.column := by
  unfold shift Mark.indent
  rw [if_congr here rfl rfl]
  split_ifs <;> rfl

/-- The same, with the first line `n` columns further in. -/
def indent (n : Nat) (l : Layout) : Layout where
  cursor := l.cursor.indent n
  tokens := l.tokens.map (Token.indent n)
  count := l.count
  count_eq := by rw [List.length_map, l.count_eq]
  indents := l.indents.map (l.shift n)
  candidate? := l.candidate?.map (Candidate.indent n)
  enclosing := l.enclosing.map (·.map (Candidate.indent n))
  keyAllowed := l.keyAllowed
  ended := l.ended

@[simp] theorem indent_inFlow : (l.indent n).inFlow = l.inFlow := by
  simp [inFlow, indent]

@[simp] theorem indent_mark : (l.indent n).mark = l.mark.indent n := rfl

@[simp] theorem indent_cursor : (l.indent n).cursor = l.cursor.indent n := rfl

theorem indents_indent : (l.indent n).indents = l.indents.map (l.shift n) := rfl

theorem candidate_indent : (l.indent n).candidate? = l.candidate?.map (Candidate.indent n) := rfl

theorem indent_put (mark : Mark) (symbol : Symbol) : (l.indent n).put (mark.indent n) symbol = (l.put mark symbol).indent n := rfl

theorem indent_insertAt (position : Nat) (t : Token) :
    (l.indent n).insertAt position (t.indent n) = (l.insertAt position t).indent n := by
  simp only [insertAt, indent, List.map_append, List.map_cons, List.map_take, List.map_drop]
  rfl

theorem indent_openBlock {mark : Mark} (here : mark.line = 0 ↔ l.mark.line = 0) (position? : Option Nat) (symbol : Symbol) :
    (l.indent n).openBlock (mark.indent n).column position? (mark.indent n) symbol =
      (l.openBlock mark.column position? mark symbol).indent n := by
  have inner : (l.indent n).indents.head?.any (l.shift n mark.column ≤ ·) = l.indents.head?.any (mark.column ≤ ·) := by
    rw [indents_indent]
    cases l.indents <;> simp [shift_le_iff]
  unfold openBlock
  rw [column_indent here, indent_inFlow, inner]
  split_ifs
  · rfl
  · cases position? with
    | none => rfl
    | some position => exact indent_insertAt (l := { l with indents := mark.column :: l.indents }) position ⟨mark, symbol⟩

theorem indent_closed (mark : Mark) (closed : List Nat) (f : Nat → Nat) :
    (closed.map f).foldl (fun closed _ => closed.put (mark.indent n) .blockEnd) (l.indent n) =
      (closed.foldl (fun closed _ => closed.put mark .blockEnd) l).indent n := by
  induction closed generalizing l with
  | nil => rfl
  | cons column closed ih => rw [List.map_cons, List.foldl_cons, List.foldl_cons, indent_put, ih]

theorem indent_reindented {indents : List Nat} (cursor : a.cursor = l.cursor) :
    { a.indent n with indents := indents.map (l.shift n) } = ({ a with indents } : Layout).indent n := by
  have same : ({ a with indents } : Layout).shift n = l.shift n := by
    funext column
    exact if_congr (by rw [Layout.mark, Layout.mark, cursor]) rfl rfl
  simp only [indent, same]

theorem indent_closeBlocks (column? : Option Nat) :
    (l.indent n).closeBlocks (column?.map (l.shift n)) = (l.closeBlocks column?).indent n := by
  have inner : ((fun indent => (column?.map (l.shift n)).all (· < indent)) ∘ l.shift n) =
      fun indent => column?.all (· < indent) := by
    funext indent
    cases column? <;> simp [shift_lt_iff]
  unfold closeBlocks
  rw [indent_inFlow, indent_mark, indents_indent]
  split_ifs
  · rfl
  · simp only [List.takeWhile_map, List.dropWhile_map, inner, indent_closed]
    exact indent_reindented (closed_others l.mark _ l).2.2

/-- Reading goes on at another place, where blocks stand further in or not as they did. -/
theorem indent_elsewhere {k : Bool} (still : (d.mark.line = 0 ↔ l.mark.line = 0) ∨ l.indents = []) :
    { l.indent n with cursor := d.indent n, keyAllowed := k } = ({ l with cursor := d, keyAllowed := k } : Layout).indent n := by
  have indents : l.indents.map (l.shift n) = l.indents.map (({ l with cursor := d, keyAllowed := k } : Layout).shift n) := by
    obtain line | none_ := still
    · refine congrArg (l.indents.map ·) (funext fun column => ?_)
      exact (if_congr line rfl rfl).symm
    · rw [none_]
      rfl
  simp only [indent, indents]

/-- No block collection stands on the first line, or no other line follows. -/
def Flat (l : Layout) : Prop :=
  (l.mark.line = 0 → l.indents = []) ∨ ∀ x ∈ l.cursor.rest, isBreak x = false

theorem Flat.still (flat : Flat l) (reaches : Reaches l.cursor d) : (d.mark.line = 0 ↔ l.mark.line = 0) ∨ l.indents = [] := by
  have line := reaches.line_le
  obtain none_ | unbroken := flat
  · by_cases first : l.mark.line = 0
    · exact .inr (none_ first)
    · exact .inl (iff_of_false (by rw [Layout.mark] at first; omega) first)
  · rw [reaches.line_eq unbroken]
    exact .inl Iff.rfl

theorem Flat.after (flat : Flat l) (reaches : Reaches l.cursor a.cursor) (indents : a.indents = l.indents) : Flat a := by
  have line := reaches.line_le
  obtain none_ | unbroken := flat
  · exact .inl fun first => indents.trans (none_ (Nat.le_zero.mp (first ▸ line)))
  · exact .inr fun x mem => unbroken x (reaches.passes.suffix.mem mem)

/-- No candidate stands further down than reading has come. -/
def Behind (l : Layout) : Prop :=
  ∀ k, some k ∈ l.candidate? :: l.enclosing → k.mark.line ≤ l.mark.line

theorem Behind.after (behind : Behind l) (reaches : Reaches l.cursor a.cursor)
    (kept : ∀ k, some k ∈ a.candidate? :: a.enclosing → some k ∈ l.candidate? :: l.enclosing) : Behind a :=
  fun k mem => (behind k (kept k mem)).trans reaches.line_le

/-- Nothing is there for a candidate that has gone. -/
theorem mem_of_none (l : Layout) {k : Candidate} (mem : some k ∈ none :: l.enclosing) : some k ∈ l.candidate? :: l.enclosing :=
  List.mem_cons_of_mem _ (by simpa using mem)

/-- The same happens with the first line further in, and only candidates go and come. -/
structure Stays (n : Nat) (l a b : Layout) : Prop where
  same : b = a.indent n
  cursor : a.cursor = l.cursor
  indents : a.indents = l.indents
  behind : Behind l → Behind a

theorem dropCandidate_indent (l : Layout) : Agree (Stays n l) l.dropCandidate (l.indent n).dropCandidate := by
  unfold dropCandidate
  rw [candidate_indent]
  cases l.candidate? with
  | none => exact ⟨rfl, rfl, rfl, id⟩
  | some k =>
    refine .ite Iff.rfl (fun _ => trivial) fun _ => ⟨rfl, rfl, rfl, fun behind => ?_⟩
    exact behind.after (.refl _) fun _ => mem_of_none l

theorem noteCandidate_indent (l : Layout) : Agree (Stays n l) l.noteCandidate (l.indent n).noteCandidate := by
  have required : ((l.indent n).indents.head? = some (l.indent n).mark.column) = (l.indents.head? = some l.mark.column) := by
    rw [indent_mark, column_indent Iff.rfl, indents_indent]
    cases l.indents <;> simp [shift_inj]
  unfold noteCandidate
  refine .ite Iff.rfl (fun _ => ?_) fun _ => ⟨rfl, rfl, rfl, id⟩
  simp only [indent_inFlow, required]
  refine (dropCandidate_indent l).bind ?_
  rintro a _ ⟨rfl, cursor, indents, behind⟩
  refine ⟨rfl, cursor, indents, fun before k mem => ?_⟩
  rcases List.mem_cons.mp mem with same | mem
  · cases same
    exact Nat.le_refl _
  · exact behind before k (List.mem_cons_of_mem _ mem)

/-- What has not gone stale is still on the line. -/
def Fresh (l : Layout) (k? : Option Candidate) : Prop :=
  ∀ k ∈ k?, l.mark.line ≤ k.mark.line

theorem checkStale_indent (k? : Option Candidate) :
    Agree (fun a b => b = a.map (Candidate.indent n) ∧ (∀ k ∈ a, k? = some k) ∧ Fresh l a) (l.checkStale k?)
      ((l.indent n).checkStale (k?.map (Candidate.indent n))) := by
  cases k? with
  | none => exact ⟨rfl, nofun, nofun⟩
  | some k =>
    have stale : (k.indent n).isStale (l.indent n).mark = k.isStale l.mark := by
      simp [Candidate.isStale, Candidate.indent]
    refine .ite (by rw [stale]) (fun _ => ?_) fun fresh => ⟨rfl, ?_, ?_⟩
    · exact .ite Iff.rfl (fun _ => trivial) fun _ => ⟨rfl, nofun, nofun⟩
    · rintro _ ⟨⟩
      rfl
    · rintro _ ⟨⟩
      simp only [Candidate.isStale, Bool.or_eq_true, decide_eq_true_eq, not_or, Nat.not_lt] at fresh
      exact fresh.1

theorem checkStale_mapM_indent (enclosing : List (Option Candidate)) :
    Agree (fun a b => b = a.map (·.map (Candidate.indent n)) ∧ ∀ k, some k ∈ a → some k ∈ enclosing)
      (enclosing.mapM l.checkStale) ((enclosing.map (·.map (Candidate.indent n))).mapM (l.indent n).checkStale) := by
  induction enclosing with
  | nil => exact ⟨rfl, nofun⟩
  | cons k? enclosing ih =>
    rw [List.map_cons, List.mapM_cons, List.mapM_cons]
    refine (checkStale_indent k?).bind ?_
    rintro first _ ⟨rfl, kept, -⟩
    refine ih.bind ?_
    rintro others _ ⟨rfl, kept'⟩
    refine ⟨rfl, fun k mem => ?_⟩
    rcases List.mem_cons.mp mem with same | mem
    · rw [kept k same.symm]
      exact List.mem_cons_self
    · exact List.mem_cons_of_mem _ (kept' k mem)

theorem dropStale_indent (l : Layout) :
    Agree (fun a b => Stays n l a b ∧ Fresh a a.candidate?) l.dropStale (l.indent n).dropStale := by
  unfold dropStale
  refine (checkStale_mapM_indent l.enclosing).bind ?_
  rintro enclosing _ ⟨rfl, kept'⟩
  refine (checkStale_indent l.candidate?).bind ?_
  rintro candidate? _ ⟨rfl, kept, fresh⟩
  refine ⟨⟨rfl, rfl, rfl, fun behind => behind.after (.refl _) fun k mem => ?_⟩, fresh⟩
  rcases List.mem_cons.mp mem with same | mem
  · rw [kept k same.symm]
    exact List.mem_cons_self
  · exact List.mem_cons_of_mem _ (kept' k mem)

theorem line_skipMany (j : Nat) (c : Cursor) : (c.skipMany j).mark.line = c.mark.line := by
  induction j generalizing c with
  | zero => rfl
  | succ j ih => exact (ih c.skip).trans Cursor.line_skip

theorem indent_take (j : Nat) (symbol : Symbol) : (l.indent n).take j symbol = (l.take j symbol).indent n := by
  have still : ((l.cursor.skipMany j).mark.line = 0 ↔ (l.put l.mark symbol).mark.line = 0) ∨
      (l.put l.mark symbol).indents = [] := by
    rw [line_skipMany]
    exact .inl Iff.rfl
  unfold take
  rw [indent_cursor, Cursor.indent_skipMany]
  exact indent_elsewhere still

/-- The same is read with the first line further in. -/
structure Along (n : Nat) (l a b : Layout) : Prop where
  same : b = a.indent n
  reaches : Reaches l.cursor a.cursor
  behind : Behind l → Behind a

theorem Along.trans {a b c d : Layout} (first : Along n l a b) (second : Along n a c d) : Along n l c d :=
  ⟨second.same, first.reaches.trans second.reaches, second.behind ∘ first.behind⟩

theorem Stays.along (stays : Stays n l a b) : Along n l a b :=
  ⟨stays.same, stays.cursor ▸ .refl _, stays.behind⟩

/-- Nothing but blocks has changed. -/
structure Blocks (l a : Layout) : Prop where
  cursor : a.cursor = l.cursor
  candidate? : a.candidate? = l.candidate?
  enclosing : a.enclosing = l.enclosing

theorem Blocks.along (blocks : Blocks l a) : Along n l a (a.indent n) := by
  refine ⟨rfl, blocks.cursor ▸ .refl _, fun behind => behind.after (blocks.cursor ▸ .refl _) fun k mem => ?_⟩
  rwa [blocks.candidate?, blocks.enclosing] at mem

theorem blocks_openBlock (column : Nat) (position? : Option Nat) (mark : Mark) (symbol : Symbol) :
    Blocks l (l.openBlock column position? mark symbol) := by
  unfold openBlock
  split_ifs
  · exact ⟨rfl, rfl, rfl⟩
  · cases position? <;> exact ⟨rfl, rfl, rfl⟩

theorem blocks_closeBlocks (l : Layout) (column? : Option Nat) : Blocks l (l.closeBlocks column?) := by
  unfold closeBlocks
  split_ifs
  · exact ⟨rfl, rfl, rfl⟩
  · obtain ⟨candidate, enclosing, cursor⟩ :=
      closed_others l.mark (l.indents.takeWhile fun indent => column?.all (· < indent)) l
    exact ⟨cursor, candidate, enclosing⟩

theorem Flat.closeBlocks (flat : Flat l) (column? : Option Nat) : Flat (l.closeBlocks column?) := by
  have cursor := (blocks_closeBlocks l column?).cursor
  obtain none_ | unbroken := flat
  · refine .inl fun first => ?_
    have none_ : l.indents = [] := none_ (by rwa [Layout.mark, cursor] at first)
    unfold Layout.closeBlocks
    split_ifs
    · exact none_
    · rw [none_]
      rfl
  · exact .inr (cursor.symm ▸ unbroken)

theorem openHere_indent (symbol : Symbol) :
    (l.indent n).openBlock (l.indent n).mark.column none (l.indent n).mark symbol =
      (l.openBlock l.mark.column none l.mark symbol).indent n :=
  indent_openBlock Iff.rfl none symbol

/-- Characters are taken that are a token by themselves. -/
theorem along_take (j : Nat) (symbol : Symbol) (allowed : Bool) :
    Along n l { l.take j symbol with keyAllowed := allowed } { (l.indent n).take j symbol with keyAllowed := allowed } := by
  rw [indent_take]
  exact ⟨rfl, .skipMany j l.cursor, fun behind => behind.after (.skipMany j l.cursor) fun _ => id⟩

/-- A token has been read that may take more than a line. -/
theorem along_add (flat : Flat l) (token : Token) (allowed : Bool) (reaches : Reaches l.cursor d) :
    Along n l { l.add token with cursor := d, keyAllowed := allowed }
      { (l.indent n).add (token.indent n) with cursor := d.indent n, keyAllowed := allowed } :=
  ⟨indent_elsewhere (l := l.add token) (flat.still reaches), reaches, fun behind => behind.after reaches fun _ => id⟩

theorem comma_indent (l : Layout) : Agree (Along n l) l.comma (l.indent n).comma := by
  refine (dropCandidate_indent l).bind ?_
  intro a b stays
  obtain rfl := stays.same
  exact stays.along.trans (along_take 1 .comma true)

theorem openFlow_indent (symbol : Symbol) (l : Layout) : Agree (Along n l) (l.openFlow symbol) ((l.indent n).openFlow symbol) := by
  refine (noteCandidate_indent l).bind ?_
  rintro a _ ⟨rfl, cursor, -, behind⟩
  rw [indent_take]
  have reaches : Reaches a.cursor (a.cursor.skipMany 1) := .skipMany 1 a.cursor
  exact ⟨rfl, cursor ▸ reaches, fun before => (behind before).after reaches fun k mem => by simpa using mem⟩

theorem closeFlow_indent (symbol : Symbol) (l : Layout) :
    Agree (Along n l) (l.closeFlow symbol) ((l.indent n).closeFlow symbol) := by
  refine (dropCandidate_indent l).bind ?_
  rintro a _ ⟨rfl, cursor, -, behind⟩
  rw [indent_take]
  have reaches : Reaches a.cursor (a.cursor.skipMany 1) := .skipMany 1 a.cursor
  dsimp only [indent, take, put, add]
  cases enclosing : a.enclosing with
  | nil =>
    refine ⟨rfl, cursor ▸ reaches, fun before => (behind before).after reaches fun k mem => ?_⟩
    rw [enclosing]
    exact mem
  | cons k? others =>
    refine ⟨rfl, cursor ▸ reaches, fun before => (behind before).after reaches fun k mem => ?_⟩
    rw [enclosing]
    exact List.mem_cons_of_mem _ mem

theorem dash_indent (l : Layout) : Agree (Along n l) l.dash (l.indent n).dash := by
  unfold dash
  rw [indent_inFlow, openHere_indent]
  refine .ite Iff.rfl (fun _ => trivial) fun _ => (dropCandidate_indent _).bind ?_
  intro a b stays
  obtain rfl := stays.same
  exact ((blocks_openBlock ..).along.trans stays.along).trans (along_take 1 .dash true)

theorem key_indent (l : Layout) : Agree (Along n l) l.key (l.indent n).key := by
  unfold key
  rw [indent_inFlow, openHere_indent]
  refine .ite Iff.rfl (fun _ => trivial) fun _ => (dropCandidate_indent _).bind ?_
  intro a b stays
  obtain rfl := stays.same
  rw [indent_inFlow]
  exact ((blocks_openBlock ..).along.trans stays.along).trans (along_take 1 .key _)

theorem value_indent (here : ∀ k ∈ l.candidate?, k.mark.line = l.mark.line) : Agree (Along n l) l.value (l.indent n).value := by
  unfold value
  rw [candidate_indent]
  cases candidate : l.candidate? with
  | some k =>
    let announced := l.insertAt k.position ⟨k.mark, .key⟩
    let opened := announced.openBlock k.mark.column (some k.position) k.mark .blockMapping
    have same : ((l.indent n).insertAt k.position ⟨k.mark.indent n, .key⟩).openBlock (k.mark.indent n).column (some k.position)
        (k.mark.indent n) .blockMapping = opened.indent n := by
      have line : k.mark.line = announced.mark.line := here k candidate
      rw [← indent_openBlock (by rw [line]), ← indent_insertAt]
      rfl
    have blocks : Blocks announced opened := blocks_openBlock ..
    have reaches : Reaches l.cursor (opened.cursor.skipMany 1) := blocks.cursor ▸ .skipMany 1 opened.cursor
    dsimp only [Option.map_some, Candidate.indent]
    rw [same, indent_take]
    refine ⟨rfl, reaches, fun behind => behind.after reaches fun j mem => mem_of_none l ?_⟩
    rwa [show l.enclosing = opened.enclosing from blocks.enclosing.symm]
  | none =>
    dsimp only [Option.map_none]
    rw [indent_inFlow, openHere_indent, indent_inFlow]
    exact .ite Iff.rfl (fun _ => trivial) fun _ => (blocks_openBlock ..).along.trans (along_take 1 .value _)

theorem documentLine_indent (symbol : Symbol) (l : Layout) :
    Agree (Along n l) (l.documentLine symbol) ((l.indent n).documentLine symbol) := by
  unfold documentLine
  rw [show (l.indent n).closeBlocks none = (l.closeBlocks none).indent n from indent_closeBlocks none]
  refine (dropCandidate_indent _).bind ?_
  intro a b stays
  obtain rfl := stays.same
  exact ((blocks_closeBlocks l none).along.trans stays.along).trans (along_take 3 symbol false)

theorem Stays.flat (stays : Stays n l a b) (flat : Flat l) : Flat a :=
  flat.after (stays.cursor ▸ .refl _) stays.indents

section Flat

variable (flat : Flat l)
include flat

theorem directive_indent : Agree (Along n l) l.directive (l.indent n).directive := by
  unfold directive
  rw [show (l.indent n).closeBlocks none = (l.closeBlocks none).indent n from indent_closeBlocks none]
  refine (dropCandidate_indent _).bind ?_
  intro a b stays
  obtain rfl := stays.same
  refine (readDirective_indent a.cursor).bind ?_
  rintro ⟨token, next⟩ _ ⟨rfl, reaches⟩
  have along : Along n a _ _ := along_add (stays.flat (flat.closeBlocks none)) token false reaches
  exact ((blocks_closeBlocks l none).along.trans stays.along).trans along

theorem name_indent (construct : Construct) (symbol : List Char → Symbol) :
    Agree (Along n l) (l.name construct symbol) ((l.indent n).name construct symbol) := by
  refine (noteCandidate_indent l).bind ?_
  intro a b stays
  obtain rfl := stays.same
  refine (readAnchor_indent construct a.cursor).bind ?_
  rintro ⟨name, next⟩ _ ⟨rfl, reaches⟩
  exact stays.along.trans (along_add (stays.flat flat) ⟨a.mark, symbol name⟩ false reaches)

theorem tag_indent : Agree (Along n l) l.tag (l.indent n).tag := by
  refine (noteCandidate_indent l).bind ?_
  intro a b stays
  obtain rfl := stays.same
  rw [indent_inFlow]
  refine (readTagAlone_indent a.inFlow a.cursor).bind ?_
  rintro ⟨token, next⟩ _ ⟨rfl, reaches⟩
  exact stays.along.trans (along_add (stays.flat flat) token false reaches)

/-- Below the first line, the innermost block stands where it stood. -/
theorem Flat.head?_indents : (l.indent n).indents.head? = l.indents.head? ∨ ∀ x ∈ l.cursor.rest, isBreak x = false := by
  refine flat.imp_left fun none_ => ?_
  rw [indents_indent]
  by_cases first : l.mark.line = 0
  · rw [none_ first]
    rfl
  · rw [show l.shift n = id from funext fun _ => if_neg first, List.map_id]

/-- A place stands further in than the innermost block whenever it did. -/
theorem Flat.column_lt_iff (reaches : Reaches l.cursor d) :
    (d.indent n).column < (l.indent n).indents.head?.elim 0 (· + 1) ↔ d.column < l.indents.head?.elim 0 (· + 1) := by
  rw [indents_indent]
  cases indents : l.indents with
  | nil => simp
  | cons inner outer =>
    have line := (flat.still reaches).resolve_right (by simp [indents])
    rw [Cursor.column, Cursor.indent_mark, column_indent line]
    change l.shift n d.mark.column < l.shift n inner + 1 ↔ d.mark.column < inner + 1
    rw [Nat.lt_succ_iff, Nat.lt_succ_iff, shift_le_iff]

theorem verbatim_indent (style : Style) : Agree (Along n l) (l.verbatim style) ((l.indent n).verbatim style) := by
  refine (dropCandidate_indent l).bind ?_
  intro a b stays
  obtain rfl := stays.same
  have flat := stays.flat flat
  refine (Verbatim.read_indent (style = .folded) flat.head?_indents).bind ?_
  rintro ⟨text, next⟩ _ ⟨rfl, reaches⟩
  exact stays.along.trans (along_add flat ⟨a.mark, .scalar style text⟩ true reaches)

theorem quoted_indent (inner : Inner l.cursor) (style : Style) (quote : Char) :
    Agree (Along n l) (l.quoted style quote) ((l.indent n).quoted style quote) := by
  refine (noteCandidate_indent l).bind ?_
  intro a b stays
  obtain rfl := stays.same
  refine (Quoted.read_indent (stays.cursor.symm ▸ inner)).bind ?_
  rintro ⟨text, next⟩ _ ⟨rfl, reaches⟩
  exact stays.along.trans (along_add (stays.flat flat) ⟨a.mark, .scalar style text⟩ false reaches)

theorem plain_indent (inner : Inner l.cursor) : Agree (Along n l) l.plain (l.indent n).plain := by
  refine (noteCandidate_indent l).bind ?_
  intro a b stays
  obtain rfl := stays.same
  have flat := stays.flat flat
  rw [indent_inFlow]
  have inner : Inner a.cursor := stays.cursor.symm ▸ inner
  refine (Plain.readWords_indent (k := a.cursor.rest.length + 1) [] {} inner fun d => flat.column_lt_iff).bind ?_
  rintro s _ ⟨rfl, reaches⟩
  exact stays.along.trans (along_add flat ⟨a.mark, .scalar .plain s.text⟩ s.broken reaches)

end Flat

/-- Reading is at a place where the first line can begin further in. -/
structure Movable (l : Layout) : Prop where
  flat : Flat l
  inner : Inner l.cursor
  behind : Behind l

/-- A token is the same with the first line further in. -/
theorem token_indent (movable : Movable l) (here : ∀ k ∈ l.candidate?, k.mark.line = l.mark.line)
    (more : l.cursor.rest ≠ []) :
    Agree (Along n l) l.token (l.indent n).token := by
  obtain ⟨flat, inner, -⟩ := movable
  obtain ⟨x, rest, cons⟩ := List.exists_cons_of_ne_nil more
  have cons' : (l.indent n).cursor.rest = x :: rest := cons
  have directive : (x = '%' && (l.indent n).mark.column = 0) = (x = '%' && l.mark.column = 0) := by
    rw [Bool.and_comm, Bool.and_comm (decide (x = '%'))]
    refine Inner.and_column fun first start => decide_eq_false ?_
    rintro rfl
    exact (inner first start).2.1 (by rw [Cursor.head?, cons]; rfl)
  unfold token
  rw [cons, cons']
  dsimp only
  rw [indent_inFlow, directive, indent_cursor, inner.isDocumentLine]
  refine .ite Iff.rfl (fun _ => directive_indent flat) fun _ => .ite Iff.rfl (fun _ => documentLine_indent _ l) fun _ => ?_
  refine .ite Iff.rfl (fun _ => openFlow_indent _ l) fun _ => .ite Iff.rfl (fun _ => openFlow_indent _ l) fun _ => ?_
  refine .ite Iff.rfl (fun _ => closeFlow_indent _ l) fun _ => .ite Iff.rfl (fun _ => closeFlow_indent _ l) fun _ => ?_
  refine .ite Iff.rfl (fun _ => comma_indent l) fun _ => .ite Iff.rfl (fun _ => dash_indent l) fun _ => ?_
  refine .ite Iff.rfl (fun _ => key_indent l) fun _ => .ite Iff.rfl (fun _ => value_indent here) fun _ => ?_
  refine .ite Iff.rfl (fun _ => name_indent flat _ _) fun _ => .ite Iff.rfl (fun _ => name_indent flat _ _) fun _ => ?_
  refine .ite Iff.rfl (fun _ => tag_indent flat) fun _ => .ite Iff.rfl (fun _ => verbatim_indent flat _) fun _ => ?_
  refine .ite Iff.rfl (fun _ => verbatim_indent flat _) fun _ => .ite Iff.rfl (fun _ => quoted_indent flat inner _ _) fun _ => ?_
  refine .ite Iff.rfl (fun _ => quoted_indent flat inner _ _) fun _ => .ite Iff.rfl (fun _ => plain_indent flat inner) fun _ => ?_
  trivial

theorem afterGap_indent (movable : Movable l) (more : l.cursor.rest ≠ []) :
    Agree (Along n l) l.afterGap (l.indent n).afterGap := by
  unfold afterGap
  refine (dropStale_indent l).bind ?_
  rintro a b ⟨stays, fresh⟩
  obtain rfl := stays.same
  have closed : (a.indent n).closeBlocks (some (a.indent n).mark.column) = (a.closeBlocks (some a.mark.column)).indent n := by
    rw [indent_mark, column_indent Iff.rfl]
    exact indent_closeBlocks (some a.mark.column)
  have flat := (stays.flat movable.flat).closeBlocks (some a.mark.column)
  have blocks := blocks_closeBlocks a (some a.mark.column)
  rw [closed]
  generalize a.closeBlocks (some a.mark.column) = c at flat blocks ⊢
  have before := stays.along.trans blocks.along
  have behind := before.behind movable.behind
  have cursor := blocks.cursor.trans stays.cursor
  -- what has not gone stale has begun on this line
  have here (k : Candidate) (candidate : k ∈ c.candidate?) : k.mark.line = c.mark.line := by
    refine Nat.le_antisymm (behind k (by rw [candidate]; exact List.mem_cons_self)) ?_
    rw [Layout.mark, blocks.cursor]
    exact fresh k (blocks.candidate? ▸ candidate)
  refine (token_indent ⟨flat, cursor ▸ movable.inner, behind⟩ here (cursor ▸ more)).bind ?_
  intro d e along
  obtain rfl := along.same
  refine (dropStale_indent d).mono ?_
  rintro _ _ ⟨stays, -⟩
  exact (before.trans along).trans stays.along

theorem reaches_gapEnd (l : Layout) : Reaches l.cursor l.gapEnd := by
  unfold gapEnd
  split_ifs
  · exact ((Reaches.next _).trans (.skipWhile _ _)).trans (.skipComment _)
  · exact (Reaches.skipWhile _ _).trans (.skipComment _)

theorem gapEnd_indent (inner : Inner l.cursor) : (l.indent n).gapEnd = l.gapEnd.indent n := by
  have marked : ((l.indent n).mark.column = 0 && (l.indent n).cursor.head? = some '\ufeff') =
      (l.mark.column = 0 && l.cursor.head? = some '\ufeff') :=
    Inner.and_column fun first start => decide_eq_false (inner first start).2.2
  unfold gapEnd
  rw [marked, indent_inFlow]
  split_ifs <;> simp only [indent_cursor, Cursor.indent_skip, Cursor.indent_skipWhile, Cursor.indent_skipComment] <;> rfl

/-- A gap is the same with the first line further in. -/
theorem passGaps_indent (flat : Flat l) (inner : Inner l.cursor) (k : Nat) :
    Along n l (passGaps k l) (passGaps k (l.indent n)) := by
  induction k generalizing l with
  | zero => exact ⟨rfl, .refl _, id⟩
  | succ k ih =>
    have gap := reaches_gapEnd l
    rw [passGaps_succ, passGaps_succ, gapEnd_indent inner, Cursor.indent_head?]
    split_ifs
    · have reaches := gap.trans (.nextLine _)
      have next : (l.indent n).nextLine = l.nextLine.indent n := by
        rw [nextLine, gapEnd_indent inner, Cursor.indent_skipBreak, indent_inFlow]
        exact indent_elsewhere (flat.still reaches)
      have along : Along n l l.nextLine (l.indent n).nextLine := ⟨next, reaches, fun behind => behind.after reaches fun _ => id⟩
      refine along.trans ?_
      rw [next]
      exact ih (flat.after reaches rfl) (inner.reaches reaches)
    · exact ⟨indent_elsewhere (flat.still gap), gap, fun behind => behind.after gap fun _ => id⟩

theorem level_indent (l : Layout) : Level l (l.indent n) := by
  refine ⟨?_, List.length_map _, List.length_map _, ?_, rfl⟩
  · rw [indent, List.map_map]
    rfl
  · rw [isKeyPending, isKeyPending, indent]
    cases l.candidate? <;> rfl

/-- Whether a block collection begins on the first line. -/
def opensBlock : Nat → Layout → Bool
  | 0, _ => false
  | limit + 1, l =>
    match l.next limit with
    | .ok next => next.mark.line = 0 && (!next.indents.isEmpty || opensBlock limit next)
    | .error _ => false

/-- No block collection stands on the first line, now or later, or no other line follows. -/
def StaysFlat (k : Nat) (l : Layout) : Prop :=
  (l.mark.line = 0 → l.indents = [] ∧ opensBlock k l = false) ∨ ∀ x ∈ l.cursor.rest, isBreak x = false

theorem StaysFlat.flat (flat : StaysFlat k l) : Flat l :=
  flat.imp_left fun none_ first => (none_ first).1

theorem StaysFlat.next (flat : StaysFlat (k + 1) l) (next : l.next k = .ok a) (reaches : Reaches l.cursor a.cursor) :
    StaysFlat k a := by
  have line := reaches.line_le
  obtain none_ | unbroken := flat
  · refine .inl fun first => ?_
    have opens := (none_ (Nat.le_zero.mp (first ▸ line))).2
    rw [opensBlock, next] at opens
    simpa [first] using opens
  · exact .inr fun x mem => unbroken x (reaches.passes.suffix.mem mem)

theorem next_indent (movable : Movable l) (more : (passGaps (k + 1) l).cursor.rest ≠ []) :
    Agree (Along n l) (l.next k) ((l.indent n).next k) := by
  have gap : Along n l (passGaps (k + 1) l) _ := passGaps_indent movable.flat movable.inner (k + 1)
  obtain ⟨_, same⟩ := (moves_passGaps (k + 1) l).same
  have flat := movable.flat.after gap.reaches (by rw [same])
  rw [next_eq, next_eq, gap.same]
  rw [gap.same] at gap
  exact (afterGap_indent ⟨flat, movable.inner.reaches gap.reaches, gap.behind movable.behind⟩ more).mono fun _ _ => gap.trans

/-- A text has the same symbols with its first line further in, if no block collection begins there or no other line follows. -/
theorem run_indent (sound : l.Sound) (inner : Inner l.cursor) (behind : Behind l) (flat : StaysFlat k l) :
    (run none k l).Alike (run none k (l.indent n)) := by
  have sound' : (l.indent n).Sound := (level_indent l).sound sound
  induction k generalizing l with
  | zero =>
    have cut {l : Layout} (sound : l.Sound) : (run none 0 l).IsCut :=
      Tokens.isCut_of_unended fun s mem => sound.unended s (List.mem_reverse.mp mem)
    exact .inl ⟨cut sound, cut sound'⟩
  | succ k ih =>
    have gap := (passGaps_indent (n := n) flat.flat inner (k + 1)).same
    by_cases done : (passGaps (k + 1) l).cursor.rest = []
    · exact (run_of_end sound done).alike (run_of_end sound' (by rw [gap]; exact done)) (level_indent l)
    · have agree : Agree (Along n l) (l.next k) ((l.indent n).next k) := next_indent ⟨flat.flat, inner, behind⟩ done
      rw [run_succ sound.going, run_succ sound'.going]
      obtain ⟨e, e', fails, fails'⟩ | ⟨a, _, next, next', rfl, reaches, behind'⟩ := agree.cases
      · rw [fails, fails']
        exact .inl ⟨resume_error sound k e, resume_error sound' k e'⟩
      · have sound := (afterGap_steps done a next).sound ((moves_passGaps (k + 1) l).level.sound sound)
        rw [next, next']
        exact ih sound (inner.reaches reaches) (behind' behind) (flat.next next reaches) ((level_indent a).sound sound)

theorem verbatimEnd?_indent (inner : Inner l.cursor) (behind : Behind l) (flat : StaysFlat k l) :
    verbatimEnd? k (l.indent n) = verbatimEnd? k l := by
  induction k generalizing l with
  | zero => rfl
  | succ k ih =>
    have gap := (passGaps_indent (n := n) flat.flat inner (k + 1)).same
    by_cases done : (passGaps (k + 1) l).cursor.rest = []
    · rw [verbatimEnd?_of_end done, verbatimEnd?_of_end (by rw [gap]; exact done)]
    · have agree : Agree (Along n l) (l.next k) ((l.indent n).next k) := next_indent ⟨flat.flat, inner, behind⟩ done
      rw [verbatimEnd?, verbatimEnd?, gap]
      obtain ⟨e, e', fails, fails'⟩ | ⟨a, _, next, next', rfl, reaches, behind'⟩ := agree.cases
      · rw [fails, fails']
      · have last : (a.indent n).isVerbatimEnd = a.isVerbatimEnd := by
          rw [isVerbatimEnd, isVerbatimEnd, indent, List.head?_map]
          cases a.tokens.head? <;> rfl
        rw [next, next']
        dsimp only
        rw [last, indent_cursor, Verbatim.chompingAt_indent, ih (inner.reaches reaches) (behind' behind) (flat.next next reaches)]

end Layout

section Text

variable {text start after : List Char}

/-- How far in the text begins does not matter: it does not begin like something that stands only at the start of a line, and no
block collection begins on its first line, unless it is the only one. -/
def Floats (text : List Char) : Prop :=
  ((⟨{}, text⟩ : Cursor).isDocumentLine = false ∧ text.head? ≠ some '%' ∧ text.head? ≠ some '\ufeff') ∧
    (Layout.opensBlock (text.length + 1) { cursor := ⟨{}, text⟩, count_eq := count_nil } = false ∨
      ∀ x ∈ text, isBreak x = false)

instance (text : List Char) : Decidable (Floats text) :=
  inferInstanceAs (Decidable ((_ ∧ _ ∧ _) ∧ (_ ∨ _)))

/-- Padding is some lines and the spaces before what follows. -/
theorem exists_lines (spent : Spent start) :
    ∃ lines spaces, start = lines ++ spaces ∧ (∀ x ∈ lines.getLast?, isBreak x = true) ∧ ∀ x ∈ spaces, x = ' ' := by
  induction start using List.reverseRecOn with
  | nil => exact ⟨[], [], rfl, by simp, by simp⟩
  | append_singleton start x ih =>
    by_cases space : x = ' '
    · obtain ⟨lines, spaces, rfl, ends, blank⟩ := ih fun y mem => spent y (List.mem_append_left _ mem)
      refine ⟨lines, spaces ++ [x], List.append_assoc .., ends, fun y mem => ?_⟩
      rcases List.mem_append.mp mem with mem | mem
      · exact blank y mem
      · exact (List.mem_singleton.mp mem).trans space
    · have pad : x ∈ pads := spent.mem_pads (by simp)
      have breaks : isBreak x = true := (by decide : ∀ x ∈ pads, x ≠ ' ' → isBreak x = true) x pad space
      exact ⟨start ++ [x], [], by simp, by simp [breaks], by simp⟩

/-- No spaces are left behind the last line break. -/
theorem eq_nil_of_flush {lines spaces : List Char} (flush : ∀ x ∈ (lines ++ spaces).getLast?, isBreak x = true)
    (blank : ∀ x ∈ spaces, x = ' ') : spaces = [] := by
  by_contra some_
  have space := blank _ (spaces.getLast_mem some_)
  have breaks := flush (spaces.getLast some_) (by simp [List.getLast?_append, List.getLast?_eq_some_getLast some_])
  rw [space] at breaks
  exact absurd breaks (by decide)

/-- The gap before a text leads to where it begins, which is the start of a line or further in. -/
theorem exists_passGaps_pads (spent : Spent start) (spent' : Spent after) (first : text.head? ≠ some '\n') (more : text ≠ []) :
    ∃ line n, ((∀ x ∈ start.getLast?, isBreak x = true) → n = 0) ∧
      Layout.passGaps ((start ++ (text ++ after)).length + 1) { cursor := ⟨{}, start ++ (text ++ after)⟩ } =
        Layout.passGaps ((start ++ (text ++ after)).length + 1)
          { cursor := (⟨Utf8.size start, line, after, spent'⟩ : Margin).cursor ((⟨{}, text⟩ : Cursor).indent n) } := by
  obtain ⟨lines, spaces, rfl, ends, blank⟩ := exists_lines spent
  have first' : (spaces ++ (text ++ after)).head? ≠ some '\n' := by
    cases spaces with
    | nil =>
      obtain ⟨x, rest, rfl⟩ := List.exists_cons_of_ne_nil more
      exact first
    | cons y spaces => simp [blank y List.mem_cons_self]
  obtain ⟨line, gap⟩ := Layout.exists_passGaps_start {} (fun x mem => spent x (List.mem_append_left _ mem)) ends first'
    (fun _ => rfl) (Nat.lt_succ_self _)
  refine ⟨line, spaces.length, fun flush => List.length_eq_zero_iff.mpr (eq_nil_of_flush flush blank), ?_⟩
  rw [← List.append_assoc, Layout.passGaps_spaces blank] at gap
  rw [gap]
  simp [Margin.cursor, Margin.mark, Cursor.indent, Mark.indent, Utf8.size_append]

/-- Blanks around a text change nothing but places, if the text stands at the start of a line, or need not, and does not end
in a block scalar that takes them. -/
theorem tokens_alike (spent : Spent start) (spent' : Spent after)
    (placed : (∀ x ∈ start.getLast?, isBreak x = true) ∨ Floats text) (first : text.head? ≠ some '\n') (more : text ≠ [])
    (calm : ∀ k ∈ verbatimEnd? text, k = .strip ∧ Bare after) : (tokens text).Alike (tokens (start ++ (text ++ after))) := by
  refine tokens_alike_of_run spent spent' ?_
  obtain ⟨line, n, flush, gap⟩ := exists_passGaps_pads spent spent' first more
  let c : Cursor := ⟨{}, text⟩
  obtain ends | ⟨inner, flat⟩ := placed
  · -- the text is read from the start of its line on
    rw [flush ends, Cursor.indent_zero] at gap
    exact run_alike_of_gap (c := c) spent' gap calm
  · -- the text is read further in
    let l : Layout := { cursor := c, count_eq := count_nil }
    have inner : Inner l.cursor := fun _ _ => inner
    have flat : l.StaysFlat (text.length + 1) := flat.imp_left fun none_ _ => ⟨rfl, none_⟩
    have moved : (Layout.run none (text.length + 1) l).Alike (Layout.run none (text.length + 1) (l.indent n)) :=
      Layout.run_indent ⟨rfl, rfl, nofun⟩ inner nofun flat
    have same : Layout.verbatimEnd? (text.length + 1) (l.indent n) = Layout.verbatimEnd? (text.length + 1) l :=
      Layout.verbatimEnd?_indent inner nofun flat
    rw [verbatimEnd?, ← same] at calm
    exact moved.trans (run_alike_of_gap (c := c.indent n) spent' gap calm)

end Text

end Frontmark.Yaml
