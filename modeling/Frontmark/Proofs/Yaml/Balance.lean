import Frontmark.Proofs.Yaml.Run
import Frontmark.Yaml.Reader

/-! A document that has been read to its end has closed every flow collection. -/

set_option autoImplicit false

namespace Frontmark.Yaml

theorem Symbol.flows_mono (s : Symbol) {m n : Nat} (le : m ≤ n) : s.flows m ≤ s.flows n := by
  cases s <;> simp only [Symbol.flows] <;> omega

/-- At least `k` of the flow collections that are open before the tokens are closed behind them. -/
def Closes (k : Nat) (tokens : List Token) : Prop :=
  ∀ before, (tokens.map Token.symbol).foldl Symbol.flows (before + k) ≤ before

namespace Closes

variable {k : Nat} {first others : List Token}

theorem nil : Closes 0 [] := by
  intro before
  exact Nat.le_refl before

theorem foldl_mono (symbols : List Symbol) {m n : Nat} (le : m ≤ n) :
    symbols.foldl Symbol.flows m ≤ symbols.foldl Symbol.flows n := by
  induction symbols generalizing m n with
  | nil => exact le
  | cons s symbols ih => exact ih (s.flows_mono le)

theorem append (closes : Closes 0 first) (closes' : Closes k others) : Closes k (first ++ others) := by
  intro before
  rw [List.map_append, List.foldl_append]
  exact (foldl_mono _ (closes (before + k))).trans (closes' before)

theorem single {t : Token} (closes : ∀ before, t.symbol.flows (before + k) ≤ before) : Closes k [t] :=
  closes

theorem of_isPlain {t : Token} (plain : t.symbol.isPlain = true) : Closes 0 [t] :=
  single fun _ => Nat.le_of_eq (Symbol.flows_of_isPlain plain _)

/-- What a flow collection holds, with the bracket before it. -/
theorem cons {t : Token} (opens : t.symbol = .sequenceStart ∨ t.symbol = .mappingStart) (closes : Closes 1 others) :
    Closes 0 (t :: others) := by
  intro before
  rw [List.map_cons, List.foldl_cons]
  obtain same | same := opens <;> rw [same] <;> exact closes before

theorem takeWhile {p : Token → Bool} (tokens : List Token) (plain : ∀ t, p t = true → t.symbol.isPlain = true) :
    Closes 0 (tokens.takeWhile p) := by
  induction tokens with
  | nil => exact nil
  | cons t tokens ih =>
    rw [List.takeWhile_cons]
    split
    case isTrue holds => exact append (of_isPlain (plain t holds)) ih
    case isFalse => exact nil

end Closes

/-- A reading that goes on has passed some of the tokens, and these have closed `k` flow collections. -/
def Leaves (k : Nat) (tokens : List Token) (r : Reading) : Prop :=
  r.isStopped = false → ∃ passed, tokens = passed ++ r.tokens ∧ Closes k passed

namespace Leaves

variable {k : Nat} {tokens rest : List Token} {t : Token} {r s : Reading}

theorem of_stopped (stopped : r.isStopped = true) : Leaves k tokens r := by
  intro going
  rw [stopped] at going
  cases going

theorem starve (r : Reading) : Leaves k tokens r.starve :=
  of_stopped rfl

theorem halt (r : Reading) (fault : Malformed) : Leaves k tokens (r.halt fault) :=
  of_stopped rfl

theorem stay (same : r.tokens = tokens) : Leaves 0 tokens r :=
  fun _ => ⟨[], same.symm, .nil⟩

theorem after {passed : List Token} (closes : Closes 0 passed) (same : tokens = passed ++ rest) (leaves : Leaves k rest r) :
    Leaves k tokens r := by
  intro going
  obtain ⟨more, rfl, closes'⟩ := leaves going
  exact ⟨passed ++ more, by rw [same, List.append_assoc], closes.append closes'⟩

theorem trans (first : Leaves 0 tokens r) (going : r.isStopped = false) (others : Leaves k r.tokens s) : Leaves k tokens s := by
  obtain ⟨passed, same, closes⟩ := first going
  exact others.after closes same

theorem drop (cons : tokens = t :: rest) (plain : t.symbol.isPlain = true) (leaves : Leaves k rest r) : Leaves k tokens r :=
  leaves.after (.of_isPlain plain) cons

theorem open_ (cons : tokens = t :: rest) (opens : t.symbol = .sequenceStart ∨ t.symbol = .mappingStart)
    (leaves : Leaves 1 rest r) : Leaves 0 tokens r := by
  intro going
  obtain ⟨passed, same, closes⟩ := leaves going
  exact ⟨t :: passed, by rw [cons, same, List.cons_append], .cons opens closes⟩

theorem close (cons : tokens = t :: rest) (closes : t.symbol = .sequenceEnd ∨ t.symbol = .mappingEnd)
    (same : r.tokens = rest) : Leaves 1 tokens r := by
  refine fun _ => ⟨[t], by rw [cons, same]; rfl, .single fun before => ?_⟩
  obtain same | same := closes <;> rw [same] <;> exact Nat.le_refl _

/-- One reading, and another one if the first one has not stopped. -/
theorem ite {α : Type} {x : α} {y : α × Reading} (first : Leaves 0 tokens r) (others : Leaves k r.tokens y.2) :
    Leaves k tokens (if r.isStopped then (x, r) else y).2 := by
  split_ifs with stopped
  · exact .of_stopped stopped
  · exact first.trans (by simpa using stopped) others

theorem counted (leaves : Leaves k tokens r) : Leaves k tokens (if r.isStopped then r else r.count) := by
  split_ifs
  · exact leaves
  · exact leaves

end Leaves

/-- Read what a node consists of from `token` on, where `named` is. -/
def readContent (fuel : Nat) (block indentless : Bool) (q : Properties) (token : Token) (r named : Reading) : Node × Reading :=
  let within (read : Reading → List Node × Reading) (r : Reading) : Node × Reading :=
    let read := read r.count
    (.sequence q read.1, read.2)
  let withinPairs (read : Reading → List (Node × Node) × Reading) (r : Reading) : Node × Reading :=
    let read := read r.count
    (.mapping q read.1, read.2)
  match token.symbol, block with
  | .scalar style text, _ => (.scalar q (style = .plain) (String.ofList text), named.drop.count)
  | .sequenceStart, _ => within (readFlowItems fuel true token.mark) named.drop
  | .mappingStart, _ => withinPairs (readFlowEntries fuel true token.mark) named.drop
  | .blockSequence, true => within (readDashes fuel false token.mark) named.drop
  | .blockMapping, true => withinPairs (readBlockEntries fuel token.mark) named.drop
  | symbol, _ =>
    if symbol = .dash && indentless then within (readDashes fuel true token.mark) named
    else if q.anchor?.isSome || q.tag?.isSome then (.scalar q true "", named.count)
    else (.stop, r.halt ⟨.noContent, token.mark, 0, some (if block then .blockNode else .flowNode, q.mark)⟩)

/-- Read a node that is not an alias, from what precedes it on. -/
def readProper (fuel : Nat) (block indentless : Bool) (mark : Mark) (r : Reading) : Node × Reading :=
  let read := readPreamble mark r.tokens
  match read.2 with
  | [] => (.stop, r.starve)
  | token :: _ =>
    match r.tag read.1 with
    | .error fault => (.stop, r.halt fault)
    | .ok tag? =>
      let named := Reading.name { r with tokens := read.2 } read.1.name?
      readContent fuel block indentless ⟨mark, named.1, tag?⟩ token r named.2

/-- What the readers of nodes do with tokens. -/
structure Balanced (fuel : Nat) : Prop where
  node : ∀ block indentless r, Leaves 0 r.tokens (readNode fuel block indentless r).2
  part : ∀ block indentless ends r, Leaves 0 r.tokens (readPart fuel block indentless ends r).2
  value : ∀ block ends r, Leaves 0 r.tokens (readValue fuel block ends r).2
  dashes : ∀ indentless start r, Leaves 0 r.tokens (readDashes fuel indentless start r).2
  blockEntries : ∀ start r, Leaves 0 r.tokens (readBlockEntries fuel start r).2
  flowItems : ∀ first start r, Leaves 1 r.tokens (readFlowItems fuel first start r).2
  pair : ∀ start r, Leaves 0 r.tokens (readPair fuel start r).2
  flowEntries : ∀ first start r, Leaves 1 r.tokens (readFlowEntries fuel first start r).2

namespace Balanced

variable {fuel : Nat}

theorem zero : Balanced 0 := by
  refine ⟨?_, ?_, ?_, ?_, ?_, ?_, ?_, ?_⟩
  all_goals
    intros
    exact .starve _

variable (ih : Balanced fuel)
include ih

theorem part_succ (block indentless : Bool) (ends : Symbol → Bool) (r : Reading) :
    Leaves 0 r.tokens (readPart (fuel + 1) block indentless ends r).2 := by
  rw [readPart]
  split
  · exact .starve r
  · split_ifs
    · exact .stay rfl
    · exact ih.node block indentless r

theorem value_succ (block : Bool) (ends : Symbol → Bool) (r : Reading) :
    Leaves 0 r.tokens (readValue (fuel + 1) block ends r).2 := by
  rw [readValue]
  split
  · exact .starve r
  next mark symbol rest cons =>
    split_ifs with colon
    · refine .drop cons (by rw [colon]; rfl) ?_
      have part := ih.part block block ends r.drop
      rwa [show r.drop.tokens = rest by rw [Reading.drop, cons]; rfl] at part
    · exact .stay rfl

theorem dashes_succ (indentless : Bool) (start : Mark) (r : Reading) :
    Leaves 0 r.tokens (readDashes (fuel + 1) indentless start r).2 := by
  rw [readDashes]
  split
  · exact .starve r
  next mark symbol rest cons =>
    have dropped : r.drop.tokens = rest := by rw [Reading.drop, cons]; rfl
    split_ifs with dash
    · refine .drop cons (by rw [dash]; rfl) ?_
      have part := ih.part true false (Symbol.endsDash indentless) r.drop
      rw [dropped] at part
      exact part.ite (ih.dashes indentless start _)
    · exact .stay rfl
    · next close => exact .drop cons (by rw [close]; rfl) (.stay dropped)
    · exact .halt r _

theorem blockEntries_succ (start : Mark) (r : Reading) :
    Leaves 0 r.tokens (readBlockEntries (fuel + 1) start r).2 := by
  rw [readBlockEntries]
  split
  · exact .starve r
  next mark symbol rest cons =>
    have dropped : r.drop.tokens = rest := by rw [Reading.drop, cons]; rfl
    split_ifs with close key
    · exact .drop cons (by rw [close]; rfl) (.stay dropped)
    · refine .drop cons (by rw [key]; rfl) (dropped ▸ ?_)
      exact (ih.part true true Symbol.endsBlockEntry r.drop).ite ((ih.value true Symbol.endsBlockEntry _).ite (ih.blockEntries start _))
    · exact .halt r _

theorem pair_succ (start : Mark) (r : Reading) : Leaves 0 r.tokens (readPair (fuel + 1) start r).2 := by
  rw [readPair]
  split
  · exact .starve r
  next mark symbol rest cons =>
    have key : Leaves 0 r.tokens (if symbol.endsPairKey then r.drop.empty mark else readNode fuel false false r).2 := by
      split_ifs with ends
      · -- the symbol that is passed over closes a collection, if it is a bracket
        have closes : Closes 0 [(⟨mark, symbol⟩ : Token)] := .single fun before => by
          cases symbol <;> first | exact Nat.le_refl _ | exact Nat.sub_le _ _ | cases ends
        exact .after closes cons (.stay (by rw [Reading.drop, cons]; rfl))
      · exact ih.node false false r
    exact key.ite (ih.value false Symbol.endsItem _).counted

omit ih in
/-- The comma before an item that is not the first one. -/
theorem exists_passed_comma {first : Bool} {t : Token} {rest : List Token} {r : Reading} (cons : r.tokens = t :: rest)
    (comma : ¬ (!first && decide (t.symbol ≠ .comma)) = true) :
    ∃ passed, r.tokens = passed ++ (if first then r else r.drop).tokens ∧ Closes 0 passed := by
  cases first with
  | true => exact ⟨[], rfl, .nil⟩
  | false =>
    have same : t.symbol = .comma := by simpa using comma
    exact ⟨[t], by rw [if_neg Bool.false_ne_true, Reading.drop, cons]; rfl, .of_isPlain (by rw [same]; rfl)⟩

theorem flowItems_succ (first : Bool) (start : Mark) (r : Reading) :
    Leaves 1 r.tokens (readFlowItems (fuel + 1) first start r).2 := by
  rw [readFlowItems]
  split
  · exact .starve r
  next mark symbol rest cons =>
    split
    next close => exact .close cons (.inl close) (by rw [Reading.drop, cons]; rfl)
    split
    · exact .halt r _
    next comma =>
      obtain ⟨passed, same, closes⟩ := exists_passed_comma cons comma
      refine .after closes same ?_
      dsimp only
      generalize (if first then r else r.drop) = r
      split
      · exact .starve r
      next place symbol rest cons =>
        have dropped : r.drop.tokens = rest := by rw [Reading.drop, cons]; rfl
        split
        next close => exact .close cons (.inl close) dropped
        next =>
          have item : Leaves 0 r.tokens (if symbol = .key then readPair fuel place r.drop.count else readNode fuel false false r).2 := by
            split_ifs with key
            · exact .drop cons (by rw [key]; rfl) (dropped ▸ ih.pair place r.drop.count)
            · exact ih.node false false r
          exact item.ite (ih.flowItems false start _)

theorem flowEntries_succ (first : Bool) (start : Mark) (r : Reading) :
    Leaves 1 r.tokens (readFlowEntries (fuel + 1) first start r).2 := by
  rw [readFlowEntries]
  split
  · exact .starve r
  next mark symbol rest cons =>
    split
    next close => exact .close cons (.inr close) (by rw [Reading.drop, cons]; rfl)
    split
    · exact .halt r _
    next comma =>
      obtain ⟨passed, same, closes⟩ := exists_passed_comma cons comma
      refine .after closes same ?_
      dsimp only
      generalize (if first then r else r.drop) = r
      split
      · exact .starve r
      next place symbol rest cons =>
        have dropped : r.drop.tokens = rest := by rw [Reading.drop, cons]; rfl
        split
        next close => exact .close cons (.inr close) dropped
        next =>
          have key : Leaves 0 r.tokens
              (if symbol = .key then readPart fuel false false Symbol.endsFlowKey r.drop else readNode fuel false false r).2 := by
            split_ifs with key
            · exact .drop cons (by rw [key]; rfl) (dropped ▸ ih.part false false Symbol.endsFlowKey r.drop)
            · exact ih.node false false r
          have value (s : Reading) :
              Leaves 0 s.tokens (if symbol = .key then readValue fuel false Symbol.endsFlowEntry s else s.empty mark).2 := by
            split_ifs
            · exact ih.value false Symbol.endsFlowEntry s
            · exact .stay rfl
          exact key.ite ((value _).ite (ih.flowEntries false start _))

omit ih in
theorem exists_passed_preamble (mark : Mark) (tokens : List Token) :
    ∃ passed, tokens = passed ++ (readPreamble mark tokens).2 ∧ Closes 0 passed := by
  have anchor (at' : Mark) (name : List Char) : Closes 0 [⟨at', .anchor name⟩] := .of_isPlain rfl
  have tag (at' : Mark) (handle : List Char) (suffix : List UInt8) : Closes 0 [⟨at', .tag handle suffix⟩] := .of_isPlain rfl
  unfold readPreamble
  split
  · exact ⟨[_, _], rfl, (anchor _ _).append (tag _ _ _)⟩
  · exact ⟨[_, _], rfl, (tag _ _ _).append (anchor _ _)⟩
  · exact ⟨[_], rfl, anchor _ _⟩
  · exact ⟨[_], rfl, tag _ _ _⟩
  · exact ⟨[], rfl, .nil⟩

theorem content {block indentless : Bool} {token : Token} {rest : List Token} {named : Reading} (q : Properties) (r : Reading)
    (cons : named.tokens = token :: rest) :
    Leaves 0 (token :: rest) (readContent fuel block indentless q token r named).2 := by
  have dropped : named.drop.count.tokens = rest := by rw [Reading.count, Reading.drop, cons]; rfl
  have items := dropped ▸ ih.flowItems true token.mark named.drop.count
  have entries := dropped ▸ ih.flowEntries true token.mark named.drop.count
  have dashes := dropped ▸ ih.dashes false token.mark named.drop.count
  have keys := dropped ▸ ih.blockEntries token.mark named.drop.count
  have level : Leaves 0 (token :: rest) (readDashes fuel true token.mark named.count).2 :=
    cons ▸ ih.dashes true token.mark named.count
  unfold readContent
  dsimp only
  -- a bracket opens a collection that its items close; whatever else is passed is no bracket
  split
  next same => exact .drop rfl (by rw [same]; rfl) (.stay dropped)
  next same => exact .open_ rfl (.inl same) items
  next same => exact .open_ rfl (.inr same) entries
  next same => exact .drop rfl (by rw [same]; rfl) dashes
  next same => exact .drop rfl (by rw [same]; rfl) keys
  · split
    · exact level
    split
    · exact .stay cons
    · exact .halt r _

theorem proper (block indentless : Bool) (mark : Mark) (r : Reading) :
    Leaves 0 r.tokens (readProper fuel block indentless mark r).2 := by
  obtain ⟨passed, same, closes⟩ := exists_passed_preamble mark r.tokens
  unfold readProper
  generalize readPreamble mark r.tokens = read at same ⊢
  obtain ⟨p, tokens⟩ := read
  refine .after closes same ?_
  dsimp only
  split
  · exact .starve r
  next token rest =>
    split
    · exact .halt r _
    next tag? _ =>
      have keeps : (Reading.name { r with tokens := token :: rest } p.name?).2.tokens = token :: rest := by
        cases p.name? <;> rfl
      exact ih.content _ r keeps

theorem node_succ (block indentless : Bool) (r : Reading) :
    Leaves 0 r.tokens (readNode (fuel + 1) block indentless r).2 := by
  rw [readNode]
  split
  · exact .starve r
  next mark name rest cons =>
    split
    · exact .drop cons rfl (.stay (by rw [Reading.count, Reading.drop, cons]; rfl))
    · exact .of_stopped rfl
  next mark symbol rest other cons => exact ih.proper block indentless mark r

end Balanced

theorem balanced (fuel : Nat) : Balanced fuel := by
  induction fuel with
  | zero => exact .zero
  | succ fuel ih =>
    exact ⟨ih.node_succ, ih.part_succ, ih.value_succ, ih.dashes_succ, ih.blockEntries_succ, ih.flowItems_succ, ih.pair_succ,
      ih.flowEntries_succ⟩

/-- A document with a value has been read to its end, and nothing follows it. -/
theorem Document.value_yields (d : Document) : Yields (fun _ => d.stop? = none ∧ d.continues = false) d.value := by
  refine .bind_last fun _ => .ite (fun _ => .error) fun whole => .ite (fun _ => .error) fun last => .ok ?_
  simpa using And.intro whole last

section Document

variable {t : Tokens} {r : Reading} {root : Node} {v : Value}

theorem not_isCut {passed rest : List Token} {last : Token} (same : t.tokens = passed ++ last :: rest)
    (ends : last.symbol = .textEnd) (closes : Closes 0 passed) : ¬ t.IsCut := fun cut =>
  cut (passed.map Token.symbol) (rest.map Token.symbol) (by rw [same, List.map_append, List.map_cons, ends])
    (Nat.le_zero.mp (closes 0))

theorem not_isCut_of_finish (leaves : Leaves 0 t.tokens r) (ok : (finishDocument root r).value = .ok v) : ¬ t.IsCut := by
  obtain ⟨whole, last⟩ := Document.value_yields _ v ok
  cases stop : r.stop? with
  | some stop =>
    simp only [finishDocument, stop] at whole
    cases whole
  | none =>
    cases tokens : r.tokens with
    | nil =>
      simp only [finishDocument, stop, tokens] at whole
      cases whole
    | cons first others =>
      obtain ⟨passed, same, closes⟩ := leaves (by rw [Reading.isStopped, stop]; rfl)
      have next : (r.tokens.dropWhile (·.symbol = .documentEnd)).head?.map Token.symbol = some .textEnd := by
        simpa [finishDocument, stop, tokens] using last
      obtain ⟨end_, head, ends⟩ := Option.map_eq_some_iff.mp next
      obtain ⟨rest, left⟩ := List.head?_eq_some_iff.mp head
      have parts := List.takeWhile_append_dropWhile (p := (·.symbol = .documentEnd)) (l := r.tokens)
      have plain : Closes 0 (r.tokens.takeWhile (·.symbol = .documentEnd)) := .takeWhile _ fun s holds => by
        rw [of_decide_eq_true holds]
        rfl
      rw [left] at parts
      rw [← parts, ← List.append_assoc] at same
      exact not_isCut same ends (closes.append plain)

theorem exists_passed_directives {tokens rest : List Token} {version : Bool} {handles handles' : List (List Char × List UInt8)}
    (ok : readDirectives tokens version handles = .ok (handles', rest)) : ∃ passed, tokens = passed ++ rest ∧ Closes 0 passed := by
  have next {t : Token} {others : List Token} (plain : t.symbol.isPlain = true)
      (found : ∃ passed, others = passed ++ rest ∧ Closes 0 passed) : ∃ passed, t :: others = passed ++ rest ∧ Closes 0 passed := by
    obtain ⟨passed, rfl, closes⟩ := found
    exact ⟨t :: passed, rfl, Closes.append (.of_isPlain plain) closes⟩
  fun_induction readDirectives tokens version handles with
  | case1 => cases ok
  | case2 _ _ _ _ _ _ _ _ ih => exact next rfl (ih ok)
  | case3 => cases ok
  | case4 => cases ok
  | case5 _ _ _ _ _ _ _ ih => exact next rfl (ih ok)
  | case6 =>
    obtain ⟨-, rfl⟩ := Prod.mk.inj (Except.ok.inj ok)
    exact ⟨[], rfl, .nil⟩

/-- What is cut off has no value. -/
theorem not_isCut_of_value (ok : (readDocument t).value = .ok v) : ¬ t.IsCut := by
  unfold readDocument at ok
  dsimp only at ok
  split at ok
  next none_ =>
    obtain ⟨whole, -⟩ := Document.value_yields _ v ok
    cases whole
  next token rest cons =>
    have same : t.tokens = [] ++ token :: rest := cons
    split at ok
    next ends => exact not_isCut same ends .nil
    split at ok
    · split at ok
      · obtain ⟨whole, -⟩ := Document.value_yields _ v ok
        cases whole
      next handles others directives =>
        obtain ⟨passed, same, closes⟩ := exists_passed_directives directives
        split at ok
        · obtain ⟨whole, -⟩ := Document.value_yields _ v ok
          cases whole
        next mark symbol rest =>
          split at ok
          next start =>
            refine not_isCut_of_finish (.after closes same (.drop rfl (by rw [start]; rfl) ?_)) ok
            exact (balanced _).part true false Symbol.endsDocument _
          · obtain ⟨whole, -⟩ := Document.value_yields _ v ok
            cases whole
    · exact not_isCut_of_finish ((balanced _).node true false _) ok

end Document

end Frontmark.Yaml
