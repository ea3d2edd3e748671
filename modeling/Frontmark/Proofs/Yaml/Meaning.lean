import Frontmark.Proofs.Yaml.Balance
import Frontmark.Proofs.Yaml.FirstLine
import Frontmark.Proofs.Yaml.Places

/-! What a text with a margin means.

Values have no places, so a text with blanks around it and the text alone mean the same as soon as their tokens are
alike. Main statement: `read_margin`. -/

set_option autoImplicit false

namespace Frontmark.Yaml

def Error.placeless : Error → Error
  | malformed fault => malformed fault.placeless
  | unknownAnchor _ => unknownAnchor {}
  | tooDeep _ => tooDeep {}
  | tooManyCopies => tooManyCopies
  | severalDocuments => severalDocuments
  | invalid fault _ path => invalid fault {} path

namespace Read

variable {α β : Type}

def placeless (x : Read α) : Read α :=
  fun copies => (x copies).mapError Error.placeless

@[simp] theorem placeless_pure (a : α) : placeless (pure a) = pure a := rfl

@[simp] theorem placeless_bind (x : Read α) (f : α → Read β) :
    placeless (x >>= f) = placeless x >>= fun a => placeless (f a) := by
  funext copies
  simp only [placeless, bind, StateT.bind, Except.bind]
  cases x copies <;> rfl

end Read

def Source.placeless (s : Source) : Source :=
  { s with targets := s.targets.map (Prod.map id Node.placeless), stop := s.stop.placeless }

namespace Node

theorem target_placeless (n : Node) : n.placeless.target = n.target.map (Prod.map id placeless) := by
  cases n <;> simp [target, anchor?, properties?, placeless, Properties.placeless]

mutual

theorem targets_placeless : ∀ n : Node, n.placeless.targets = n.targets.map (Prod.map id placeless)
  | scalar p plain text => target_placeless (scalar p plain text)
  | reference _ _ => rfl
  | stop => rfl
  | sequence p items => by
    rw [placeless, targets, targets, List.map_append, ← targetsOfItems_placeless items,
      ← target_placeless (sequence p items)]
    rfl
  | mapping p entries => by
    rw [placeless, targets, targets, List.map_append, ← targetsOfEntries_placeless entries,
      ← target_placeless (mapping p entries)]
    rfl

theorem targetsOfItems_placeless : ∀ items : List Node,
    targetsOfItems (placelessItems items) = (targetsOfItems items).map (Prod.map id placeless)
  | [] => rfl
  | n :: items => by
    rw [placelessItems, targetsOfItems, targetsOfItems, List.map_append, targets_placeless n, targetsOfItems_placeless items]

theorem targetsOfEntries_placeless : ∀ entries : List (Node × Node),
    targetsOfEntries (placelessEntries entries) = (targetsOfEntries entries).map (Prod.map id placeless)
  | [] => rfl
  | (key, value) :: entries => by
    rw [placelessEntries, targetsOfEntries, targetsOfEntries, List.map_append, List.map_append, targets_placeless key,
      targets_placeless value, targetsOfEntries_placeless entries]

end

end Node

theorem target?_placeless (s : Source) (anchor : Nat) : s.placeless.target? anchor = (s.target? anchor).map Node.placeless := by
  rw [Source.target?, Source.target?, Source.placeless, List.find?_map, Option.map_map, Option.map_map]
  rfl

theorem resolve_placeless (s : Source) (n : Node) :
    s.placeless.resolve n.placeless = Read.placeless (s.resolve n) >>= fun n => pure n.placeless := by
  cases n with
  | reference mark anchor =>
    rw [Node.placeless, Source.resolve, Source.resolve]
    simp only [Read.placeless_bind, bind_assoc, target?_placeless]
    refine bind_congr fun copies => bind_congr fun _ => ?_
    rw [show s.placeless.copyLimit = s.copyLimit from rfl]
    split_ifs
    · rfl
    · cases s.target? anchor <;> rfl
  | _ => rfl

theorem readItems_placeless {read read' : Path → Node → Read Value}
    (same : ∀ path n, read' path n.placeless = (read path n).placeless) (path : Path) (index : Nat) (items : List Node) :
    readItems read' path index (Node.placelessItems items) = (readItems read path index items).placeless := by
  induction items generalizing index with
  | nil => rfl
  | cons n items ih =>
    rw [Node.placelessItems, readItems, readItems]
    simp only [same, ih, Read.placeless_bind, Read.placeless_pure]

theorem judge_placeless (mark : Mark) (path : Path) (r : Except Fault Value) :
    judge {} path r = Read.placeless (judge mark path r) := by
  cases r <;> rfl

theorem readEntries_placeless {readKey read readKey' read' : Path → Node → Read Value}
    (sameKey : ∀ path n, readKey' path n.placeless = Read.placeless (readKey path n))
    (same : ∀ path n, read' path n.placeless = Read.placeless (read path n)) (mark : Mark) (path : Path)
    (before : List (Value × Value)) (entries : List (Node × Node)) :
    readEntries readKey' read' {} path before (Node.placelessEntries entries) =
      Read.placeless (readEntries readKey read mark path before entries) := by
  induction entries generalizing before with
  | nil => rfl
  | cons entry entries ih =>
    obtain ⟨key, value⟩ := entry
    have place : valuePath path key.placeless = valuePath path key := by cases key <;> rfl
    rw [Node.placelessEntries, readEntries, readEntries, sameKey, Read.placeless_bind]
    refine bind_congr fun k => ?_
    cases before.find? (·.1.same k) with
    | some found => rfl
    | none => simp only [place, same, ih, Read.placeless_bind]

theorem evaluate_placeless (s : Source) (depth : Nat) (ofTagged : Bool) (place : Path) (n : Node) :
    evaluate s.placeless depth ofTagged place n.placeless = Read.placeless (evaluate s depth ofTagged place n) := by
  induction depth using Nat.strongRecOn generalizing ofTagged place n with
  | ind depth ih =>
    have path : nodePath place n.placeless = nodePath place n := by cases n <;> rfl
    have reference : isReference n.placeless = isReference n := by cases n <;> rfl
    rw [evaluate, evaluate, path, reference, resolve_placeless, Read.placeless_bind]
    simp only [bind_assoc, pure_bind]
    refine bind_congr fun a => ?_
    cases a with
    | stop => rfl
    | reference mark anchor => rfl
    | scalar p plain text =>
      simp only [Node.placeless, Properties.placeless, Properties.localTag?]
      rw [judge_placeless p.mark, Read.placeless_bind]
      rfl
    | sequence p items =>
      cases depth with
      | zero => rfl
      | succ depth =>
        have below := ih depth (Nat.lt_succ_self depth) false
        simp only [Node.placeless, Properties.placeless, Properties.localTag?]
        rw [readItems_placeless below, Read.placeless_bind]
        rfl
    | mapping p entries =>
      cases depth with
      | zero => rfl
      | succ depth =>
        have below := ih depth (Nat.lt_succ_self depth)
        simp only [Node.placeless, Properties.placeless, Properties.localTag?]
        rw [readEntries_placeless (below _) (below false) p.mark, Read.placeless_bind]
        rfl

/-- A document has the same value wherever its tokens stand. -/
theorem value_placeless (d : Document) : d.placeless.value = d.value.mapError Error.placeless := by
  obtain ⟨root?, events, stop?, continues⟩ := d
  unfold Document.value
  dsimp only [Document.placeless]
  have stop : (stop?.map Stop.placeless).elim (.malformed { problem := .endOfText }) Stop.error =
      (stop?.elim (.malformed { problem := .endOfText }) Stop.error).placeless := by
    rcases stop? with _ | ⟨_ | _⟩ <;> rfl
  have root : (root?.map Node.placeless).getD (.scalar { mark := {} } true "") =
      (root?.getD (.scalar { mark := {} } true "")).placeless := by
    cases root? <;> rfl
  rw [stop, root, Node.targets_placeless, ← List.map_reverse]
  generalize stop?.elim (Error.malformed { problem := .endOfText }) Stop.error = stop
  generalize root?.getD (Node.scalar { mark := {} } true "") = root
  have same := evaluate_placeless ⟨root.targets.reverse, copiesPerEvent * events, stop⟩ depthLimit false .root root
  have run := congrFun same 0
  unfold Source.placeless at run
  dsimp only [StateT.run]
  rw [run]
  generalize evaluate ⟨root.targets.reverse, copiesPerEvent * events, stop⟩ depthLimit false .root root = read
  unfold Read.placeless
  cases read 0 with
  | error e => rfl
  | ok r => cases stop? <;> cases continues <;> rfl

namespace Tokens

variable {t t' : Tokens}

theorem placeless_eq (symbols : t'.tokens.map Token.symbol = t.tokens.map Token.symbol) (whole : t.fault? = none)
    (whole' : t'.fault? = none) : t'.placeless = t.placeless := by
  have forget (tokens : List Token) : tokens.map Token.placeless = (tokens.map Token.symbol).map (Token.mk {}) := by
    rw [List.map_map]
    rfl
  rw [placeless, placeless, forget, forget, symbols, whole, whole']

theorem IsCut.value (cut : t.IsCut) : ∃ e, (readDocument t).value = .error e := by
  cases read : (readDocument t).value with
  | error e => exact ⟨e, rfl⟩
  | ok v => exact absurd cut (not_isCut_of_value read)

/-- Tokens that are alike have the same value, or none. -/
theorem Alike.value (alike : t.Alike t') : (readDocument t').value.toOption = (readDocument t).value.toOption := by
  rcases alike with ⟨cut, cut'⟩ | ⟨symbols, whole, whole'⟩
  · obtain ⟨e, error⟩ := cut.value
    obtain ⟨e', error'⟩ := cut'.value
    rw [error, error']
    rfl
  · have forget (t : Tokens) : (readDocument t.placeless).value.toOption = (readDocument t).value.toOption := by
      rw [readDocument_placeless, value_placeless]
      cases (readDocument t).value <;> rfl
    rw [← forget t', placeless_eq symbols whole whole', forget t]

end Tokens

/-- Spaces and line breaks around a text change nothing of its value, if its first line stays where it was, or floats, and the
text does not end in a block scalar, or in one that is stripped and only line breaks follow. -/
theorem read_margin {start text after : List Char} (spent : Spent start) (spent' : Spent after)
    (placed : (∀ x ∈ start.getLast?, isBreak x = true) ∨ Floats text) (first : text.head? ≠ some '\n') (more : text ≠ [])
    (calm : ∀ k ∈ verbatimEnd? text, k = .strip ∧ Bare after) :
    (read (String.ofList (start ++ (text ++ after)))).toOption = (read (String.ofList text)).toOption := by
  rw [read, read, String.toList_ofList, String.toList_ofList]
  exact (tokens_alike spent spent' placed first more calm).value

end Frontmark.Yaml
