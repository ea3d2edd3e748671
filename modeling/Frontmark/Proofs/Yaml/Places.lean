import Frontmark.Proofs.Yaml.Balance
import Mathlib.Tactic.SplitIfs

/-! The places of tokens play no part in what a document says.

Everything that reads tokens and nodes is seen to do the same once their places are forgotten. -/

set_option autoImplicit false

namespace Frontmark.Yaml

def Token.placeless (t : Token) : Token :=
  { t with mark := {} }

@[simp] theorem Token.placeless_mk (mark : Mark) (symbol : Symbol) : Token.placeless ⟨mark, symbol⟩ = ⟨{}, symbol⟩ := rfl

def Malformed.placeless (m : Malformed) : Malformed :=
  { m with mark := {}, within? := m.within?.map fun w => (w.1, {}) }

def Stop.placeless : Stop → Stop
  | malformed fault => malformed fault.placeless
  | unknownAnchor _ => unknownAnchor {}

def Properties.placeless (p : Properties) : Properties :=
  { p with mark := {} }

namespace Node

mutual

def placeless : Node → Node
  | scalar p plain text => scalar p.placeless plain text
  | reference _ anchor => reference {} anchor
  | sequence p items => sequence p.placeless (placelessItems items)
  | mapping p entries => mapping p.placeless (placelessEntries entries)
  | stop => stop

def placelessItems : List Node → List Node
  | [] => []
  | n :: items => n.placeless :: placelessItems items

def placelessEntries : List (Node × Node) → List (Node × Node)
  | [] => []
  | (key, value) :: entries => (key.placeless, value.placeless) :: placelessEntries entries

end

end Node

def Preamble.placeless (p : Preamble) : Preamble :=
  { p with mark := {}, tag? := p.tag?.map fun t => ({}, t.2) }

namespace Reading

def placeless (r : Reading) : Reading :=
  { r with
    tokens := r.tokens.map Token.placeless
    fault? := r.fault?.map Malformed.placeless
    stop? := r.stop?.map Stop.placeless }

variable (r : Reading)

@[simp] theorem tokens_placeless : r.placeless.tokens = r.tokens.map Token.placeless := rfl

@[simp] theorem names_placeless : r.placeless.names = r.names := rfl

@[simp] theorem isStopped_placeless : r.placeless.isStopped = r.isStopped := by
  simp [isStopped, placeless]

@[simp] theorem drop_placeless : r.placeless.drop = r.drop.placeless := by
  simp [drop, placeless]

@[simp] theorem count_placeless : r.placeless.count = r.count.placeless := rfl

@[simp] theorem starve_placeless : r.placeless.starve = r.starve.placeless := by
  cases fault : r.fault? <;> simp [starve, halt, placeless, fault, Stop.placeless, Malformed.placeless]

theorem name_placeless (name? : Option (List Char)) :
    r.placeless.name name? = (r.name name?).map id Reading.placeless := by
  cases name? <;> rfl

@[simp] theorem empty_placeless (mark : Mark) :
    r.placeless.empty {} = (r.empty mark).map Node.placeless Reading.placeless := by
  simp [empty, Node.placeless, Properties.placeless]

end Reading

theorem map_ite {α β : Type} {f : α → β} {p : Prop} [Decidable p] {x y : α × Reading} {x' y' : β × Reading}
    (yes : p → x' = x.map f Reading.placeless) (no : ¬ p → y' = y.map f Reading.placeless) :
    (if p then x' else y') = (if p then x else y).map f Reading.placeless := by
  split_ifs with holds
  · exact yes holds
  · exact no holds

/-- What the readers of nodes do without places. -/
structure Placeless (fuel : Nat) : Prop where
  node : ∀ block indentless r,
    readNode fuel block indentless r.placeless = (readNode fuel block indentless r).map Node.placeless Reading.placeless
  part : ∀ block indentless ends r,
    readPart fuel block indentless ends r.placeless =
      (readPart fuel block indentless ends r).map Node.placeless Reading.placeless
  value : ∀ block ends r,
    readValue fuel block ends r.placeless = (readValue fuel block ends r).map Node.placeless Reading.placeless
  dashes : ∀ indentless start r,
    readDashes fuel indentless {} r.placeless =
      (readDashes fuel indentless start r).map Node.placelessItems Reading.placeless
  blockEntries : ∀ start r,
    readBlockEntries fuel {} r.placeless = (readBlockEntries fuel start r).map Node.placelessEntries Reading.placeless
  flowItems : ∀ first start r,
    readFlowItems fuel first {} r.placeless =
      (readFlowItems fuel first start r).map Node.placelessItems Reading.placeless
  pair : ∀ start r, readPair fuel {} r.placeless = (readPair fuel start r).map Node.placeless Reading.placeless
  flowEntries : ∀ first start r,
    readFlowEntries fuel first {} r.placeless =
      (readFlowEntries fuel first start r).map Node.placelessEntries Reading.placeless

namespace Placeless

variable {fuel : Nat}

theorem zero : Placeless 0 := by
  refine ⟨?_, ?_, ?_, ?_, ?_, ?_, ?_, ?_⟩
  all_goals
    intros
    simp [readNode, readPart, readValue, readDashes, readBlockEntries, readFlowItems, readPair, readFlowEntries,
      Node.placeless, Node.placelessItems, Node.placelessEntries]

variable (ih : Placeless fuel)
include ih

theorem part_succ (block indentless : Bool) (ends : Symbol → Bool) (r : Reading) :
    readPart (fuel + 1) block indentless ends r.placeless =
      (readPart (fuel + 1) block indentless ends r).map Node.placeless Reading.placeless := by
  rw [readPart, readPart, Reading.tokens_placeless]
  cases r.tokens with
  | nil => simp [Node.placeless]
  | cons token rest =>
    obtain ⟨mark, symbol⟩ := token
    simp only [List.map_cons, Token.placeless_mk]
    split_ifs
    · exact r.empty_placeless mark
    · exact ih.node block indentless r

theorem value_succ (block : Bool) (ends : Symbol → Bool) (r : Reading) :
    readValue (fuel + 1) block ends r.placeless =
      (readValue (fuel + 1) block ends r).map Node.placeless Reading.placeless := by
  rw [readValue, readValue, Reading.tokens_placeless]
  cases r.tokens with
  | nil => simp [Node.placeless]
  | cons token rest =>
    obtain ⟨mark, symbol⟩ := token
    simp only [List.map_cons, Token.placeless_mk]
    split_ifs
    · rw [r.drop_placeless]
      exact ih.part block block ends r.drop
    · exact r.empty_placeless mark

theorem dashes_succ (indentless : Bool) (start : Mark) (r : Reading) :
    readDashes (fuel + 1) indentless {} r.placeless =
      (readDashes (fuel + 1) indentless start r).map Node.placelessItems Reading.placeless := by
  rw [readDashes, readDashes, Reading.tokens_placeless]
  cases r.tokens with
  | nil => simp [Node.placeless, Node.placelessItems]
  | cons token rest =>
    obtain ⟨mark, symbol⟩ := token
    simp only [List.map_cons, Token.placeless_mk]
    refine map_ite (fun _ => ?_) fun _ => map_ite (fun _ => rfl) fun _ => map_ite (fun _ => ?_) fun _ => rfl
    · rw [r.drop_placeless, ih.part true false (Symbol.endsDash indentless) r.drop]
      generalize readPart fuel true false (Symbol.endsDash indentless) r.drop = read
      obtain ⟨item, s⟩ := read
      simp only [Prod.map, s.isStopped_placeless, ih.dashes indentless start s]
      exact map_ite (fun _ => rfl) fun _ => rfl
    · rw [r.drop_placeless]
      rfl

theorem blockEntries_succ (start : Mark) (r : Reading) :
    readBlockEntries (fuel + 1) {} r.placeless =
      (readBlockEntries (fuel + 1) start r).map Node.placelessEntries Reading.placeless := by
  rw [readBlockEntries, readBlockEntries, Reading.tokens_placeless]
  cases r.tokens with
  | nil => simp [Node.placeless, Node.placelessEntries]
  | cons token rest =>
    obtain ⟨mark, symbol⟩ := token
    simp only [List.map_cons, Token.placeless_mk]
    refine map_ite (fun _ => ?_) fun _ => map_ite (fun _ => ?_) fun _ => rfl
    · rw [r.drop_placeless]
      rfl
    · rw [r.drop_placeless, ih.part true true Symbol.endsBlockEntry r.drop]
      generalize readPart fuel true true Symbol.endsBlockEntry r.drop = read
      obtain ⟨key, s⟩ := read
      simp only [Prod.map, s.isStopped_placeless, ih.value true Symbol.endsBlockEntry s]
      refine map_ite (fun _ => rfl) fun _ => ?_
      generalize readValue fuel true Symbol.endsBlockEntry s = read
      obtain ⟨value, u⟩ := read
      simp only [u.isStopped_placeless, ih.blockEntries start u]
      exact map_ite (fun _ => rfl) fun _ => rfl

theorem pair_succ (start : Mark) (r : Reading) :
    readPair (fuel + 1) {} r.placeless = (readPair (fuel + 1) start r).map Node.placeless Reading.placeless := by
  rw [readPair, readPair, Reading.tokens_placeless]
  cases r.tokens with
  | nil => simp [Node.placeless, Node.placelessEntries, Properties.placeless]
  | cons token rest =>
    obtain ⟨mark, symbol⟩ := token
    simp only [List.map_cons, Token.placeless_mk]
    have key : (if symbol.endsPairKey then r.placeless.drop.empty {} else readNode fuel false false r.placeless) =
        (if symbol.endsPairKey then r.drop.empty mark else readNode fuel false false r).map Node.placeless Reading.placeless :=
      map_ite (fun _ => by rw [r.drop_placeless, r.drop.empty_placeless mark]) fun _ => ih.node false false r
    rw [key]
    generalize (if symbol.endsPairKey then r.drop.empty mark else readNode fuel false false r) = read
    obtain ⟨key, s⟩ := read
    simp only [Prod.map, s.isStopped_placeless, ih.value false Symbol.endsItem s]
    refine map_ite (fun _ => rfl) fun _ => ?_
    generalize readValue fuel false Symbol.endsItem s = read
    obtain ⟨value, u⟩ := read
    simp only [u.isStopped_placeless]
    split_ifs <;> rfl

omit ih in
theorem ite_drop_placeless (first : Bool) (r : Reading) :
    (if first then r.placeless else r.placeless.drop) = (if first then r else r.drop).placeless := by
  rw [r.drop_placeless]
  split_ifs <;> rfl

theorem flowItems_succ (first : Bool) (start : Mark) (r : Reading) :
    readFlowItems (fuel + 1) first {} r.placeless =
      (readFlowItems (fuel + 1) first start r).map Node.placelessItems Reading.placeless := by
  rw [readFlowItems, readFlowItems, Reading.tokens_placeless]
  cases r.tokens with
  | nil => simp [Node.placeless, Node.placelessItems]
  | cons token rest =>
    obtain ⟨mark, symbol⟩ := token
    simp only [List.map_cons, Token.placeless_mk]
    refine map_ite (fun _ => ?_) fun _ => map_ite (fun _ => rfl) fun _ => ?_
    · rw [r.drop_placeless]
      rfl
    · rw [ite_drop_placeless]
      generalize (if first then r else r.drop) = r
      rw [Reading.tokens_placeless]
      cases r.tokens with
      | nil => simp [Node.placeless, Node.placelessItems]
      | cons token rest =>
        obtain ⟨place, symbol⟩ := token
        simp only [List.map_cons, Token.placeless_mk]
        refine map_ite (fun _ => ?_) fun _ => ?_
        · rw [r.drop_placeless]
          rfl
        · have item : (if symbol = .key then readPair fuel {} r.placeless.drop.count else readNode fuel false false r.placeless) =
              (if symbol = .key then readPair fuel place r.drop.count else readNode fuel false false r).map
                Node.placeless Reading.placeless :=
            map_ite (fun _ => by rw [r.drop_placeless, r.drop.count_placeless, ih.pair place]) fun _ => ih.node false false r
          rw [item]
          generalize (if symbol = .key then readPair fuel place r.drop.count else readNode fuel false false r) = read
          obtain ⟨item, s⟩ := read
          simp only [Prod.map, s.isStopped_placeless, ih.flowItems false start s]
          exact map_ite (fun _ => rfl) fun _ => rfl

theorem flowEntries_succ (first : Bool) (start : Mark) (r : Reading) :
    readFlowEntries (fuel + 1) first {} r.placeless =
      (readFlowEntries (fuel + 1) first start r).map Node.placelessEntries Reading.placeless := by
  rw [readFlowEntries, readFlowEntries, Reading.tokens_placeless]
  cases r.tokens with
  | nil => simp [Node.placeless, Node.placelessEntries]
  | cons token rest =>
    obtain ⟨mark, symbol⟩ := token
    simp only [List.map_cons, Token.placeless_mk]
    refine map_ite (fun _ => ?_) fun _ => map_ite (fun _ => rfl) fun _ => ?_
    · rw [r.drop_placeless]
      rfl
    · rw [ite_drop_placeless]
      generalize (if first then r else r.drop) = r
      rw [Reading.tokens_placeless]
      cases r.tokens with
      | nil => simp [Node.placeless, Node.placelessEntries]
      | cons token rest =>
        obtain ⟨place, symbol⟩ := token
        simp only [List.map_cons, Token.placeless_mk]
        refine map_ite (fun _ => ?_) fun _ => ?_
        · rw [r.drop_placeless]
          rfl
        · have key : (if symbol = .key then readPart fuel false false Symbol.endsFlowKey r.placeless.drop
                else readNode fuel false false r.placeless) =
              (if symbol = .key then readPart fuel false false Symbol.endsFlowKey r.drop
                else readNode fuel false false r).map Node.placeless Reading.placeless :=
            map_ite (fun _ => by rw [r.drop_placeless, ih.part]) fun _ => ih.node false false r
          rw [key]
          generalize (if symbol = .key then readPart fuel false false Symbol.endsFlowKey r.drop
            else readNode fuel false false r) = read
          obtain ⟨key, s⟩ := read
          simp only [Prod.map, s.isStopped_placeless]
          refine map_ite (fun _ => rfl) fun _ => ?_
          have value : (if symbol = .key then readValue fuel false Symbol.endsFlowEntry s.placeless else s.placeless.empty {}) =
              (if symbol = .key then readValue fuel false Symbol.endsFlowEntry s else s.empty mark).map
                Node.placeless Reading.placeless :=
            map_ite (fun _ => ih.value false Symbol.endsFlowEntry s) fun _ => s.empty_placeless mark
          rw [value]
          generalize (if symbol = .key then readValue fuel false Symbol.endsFlowEntry s else s.empty mark) = read
          obtain ⟨value, u⟩ := read
          simp only [Prod.map, u.isStopped_placeless, ih.flowEntries false start u]
          exact map_ite (fun _ => rfl) fun _ => rfl

omit ih in
theorem readPreamble_placeless (mark : Mark) (tokens : List Token) :
    readPreamble {} (tokens.map Token.placeless) = (readPreamble mark tokens).map Preamble.placeless (List.map Token.placeless) := by
  rcases tokens with _ | ⟨⟨place, symbol⟩, rest⟩
  · rfl
  · cases symbol with
    | anchor name =>
      rcases rest with _ | ⟨⟨_, next⟩, rest⟩
      · rfl
      · cases next <;> rfl
    | tag handle suffix =>
      rcases rest with _ | ⟨⟨_, next⟩, rest⟩
      · rfl
      · cases next <;> rfl
    | _ => rfl

omit ih in
theorem tag_placeless (r : Reading) (p : Preamble) :
    r.placeless.tag p.placeless = (r.tag p).mapError Malformed.placeless := by
  obtain ⟨mark, name?, tag?⟩ := p
  cases tag? with
  | none => rfl
  | some t =>
    obtain ⟨place, handle, suffix⟩ := t
    simp only [Reading.tag, Preamble.placeless, Option.map_some]
    split_ifs
    · rfl
    · rw [show r.placeless.handles = r.handles from rfl]
      cases r.handles.find? (·.1 = handle) <;> rfl

theorem content (block indentless : Bool) (q : Properties) (token : Token) (r named : Reading) :
    readContent fuel block indentless q.placeless token.placeless r.placeless named.placeless =
      (readContent fuel block indentless q token r named).map Node.placeless Reading.placeless := by
  obtain ⟨place, symbol⟩ := token
  unfold readContent
  simp only [Token.placeless_mk, named.drop_placeless, named.drop.count_placeless, named.count_placeless, ih.flowItems true place,
    ih.flowEntries true place, ih.dashes false place, ih.dashes true place, ih.blockEntries place]
  have others : (if symbol = .dash && indentless then
        (Node.sequence q.placeless ((readDashes fuel true place named.count).map Node.placelessItems Reading.placeless).1,
          ((readDashes fuel true place named.count).map Node.placelessItems Reading.placeless).2)
      else if q.anchor?.isSome || q.tag?.isSome then (.scalar q.placeless true "", named.count.placeless)
      else (.stop, r.placeless.halt ⟨.noContent, {}, 0, some (if block then .blockNode else .flowNode, {})⟩)) =
    (if symbol = .dash && indentless then
        (Node.sequence q (readDashes fuel true place named.count).1, (readDashes fuel true place named.count).2)
      else if q.anchor?.isSome || q.tag?.isSome then (.scalar q true "", named.count)
      else (.stop, r.halt ⟨.noContent, place, 0, some (if block then .blockNode else .flowNode, q.mark)⟩)).map
        Node.placeless Reading.placeless :=
    map_ite (fun _ => rfl) fun _ => map_ite (fun _ => rfl) fun _ => rfl
  cases symbol with
  | scalar | sequenceStart | mappingStart => rfl
  | blockSequence | blockMapping =>
    cases block with
    | true => rfl
    | false => exact others
  | _ => exact others

theorem proper (block indentless : Bool) (mark : Mark) (r : Reading) :
    readProper fuel block indentless {} r.placeless =
      (readProper fuel block indentless mark r).map Node.placeless Reading.placeless := by
  unfold readProper
  rw [Reading.tokens_placeless, readPreamble_placeless mark r.tokens]
  generalize readPreamble mark r.tokens = read
  obtain ⟨p, tokens⟩ := read
  cases tokens with
  | nil => simp [Node.placeless]
  | cons token rest =>
    simp only [Prod.map, List.map_cons, tag_placeless]
    cases r.tag p with
    | error fault => rfl
    | ok tag? =>
      have named : Reading.name { r.placeless with tokens := token.placeless :: rest.map Token.placeless } p.placeless.name? =
          (Reading.name { r with tokens := token :: rest } p.name?).map id Reading.placeless :=
        Reading.name_placeless { r with tokens := token :: rest } p.name?
      simp only [Except.mapError]
      rw [named]
      generalize Reading.name { r with tokens := token :: rest } p.name? = named
      exact ih.content block indentless ⟨mark, named.1, tag?⟩ token r named.2

theorem node_succ (block indentless : Bool) (r : Reading) :
    readNode (fuel + 1) block indentless r.placeless =
      (readNode (fuel + 1) block indentless r).map Node.placeless Reading.placeless := by
  rw [readNode, readNode, Reading.tokens_placeless]
  cases tokens : r.tokens with
  | nil => simp [Node.placeless]
  | cons token rest =>
    obtain ⟨mark, symbol⟩ := token
    have proper := ih.proper block indentless mark r
    unfold readProper at proper
    rw [Reading.tokens_placeless, tokens] at proper
    cases symbol with
    | reference name =>
      simp only [List.map_cons, Token.placeless_mk, r.names_placeless]
      cases r.names.find? (·.1 = name) with
      | none => rfl
      | some found =>
        rw [r.drop_placeless]
        rfl
    | _ => exact proper

end Placeless

theorem placeless (fuel : Nat) : Placeless fuel := by
  induction fuel with
  | zero => exact .zero
  | succ fuel ih =>
    exact ⟨ih.node_succ, ih.part_succ, ih.value_succ, ih.dashes_succ, ih.blockEntries_succ, ih.flowItems_succ, ih.pair_succ,
      ih.flowEntries_succ⟩

def Tokens.placeless (t : Tokens) : Tokens :=
  ⟨t.tokens.map Token.placeless, t.fault?.map Malformed.placeless⟩

def Document.placeless (d : Document) : Document :=
  { d with root? := d.root?.map Node.placeless, stop? := d.stop?.map Stop.placeless }

theorem readDirectives_placeless (tokens : List Token) (version : Bool) (handles : List (List Char × List UInt8)) :
    readDirectives (tokens.map Token.placeless) version handles =
      ((readDirectives tokens version handles).map (Prod.map id (List.map Token.placeless))).mapError Malformed.placeless := by
  induction tokens generalizing version handles with
  | nil => rfl
  | cons token rest ih =>
    obtain ⟨mark, symbol⟩ := token
    cases symbol with
    | version major minor =>
      simp only [List.map_cons, Token.placeless_mk, readDirectives]
      split_ifs
      · rfl
      · exact ih true handles
      · rfl
    | shorthand handle start =>
      simp only [List.map_cons, Token.placeless_mk, readDirectives]
      split_ifs
      · rfl
      · exact ih version (handles ++ [(handle, start)])
    | _ => rfl

theorem finishDocument_placeless (root : Node) (r : Reading) :
    finishDocument root.placeless r.placeless = (finishDocument root r).placeless := by
  have stopped : r.placeless.stop? = r.stop?.map Stop.placeless := rfl
  have symbols (t : Token) : t.placeless.symbol = t.symbol := rfl
  rw [finishDocument, finishDocument, Reading.tokens_placeless, stopped]
  cases r.stop? with
  | some stop => rfl
  | none =>
    cases r.tokens with
    | nil =>
      rw [Reading.starve_placeless]
      rfl
    | cons token rest =>
      simp only [Option.map_none, Document.placeless, Option.map_some, List.map_cons]
      rw [← List.map_cons, List.dropWhile_map, List.head?_map, Option.map_map]
      rfl

theorem starved_placeless (r : Reading) :
    (⟨some .stop, 0, r.placeless.starve.stop?, false⟩ : Document) = Document.placeless ⟨some .stop, 0, r.starve.stop?, false⟩ := by
  rw [r.starve_placeless]
  rfl

theorem nodeFuel_placeless (tokens : List Token) : nodeFuel (tokens.map Token.placeless) = nodeFuel tokens := by
  rw [nodeFuel, nodeFuel, List.length_map]

theorem readDocument_placeless (t : Tokens) : readDocument t.placeless = (readDocument t).placeless := by
  let opened (tokens : List Token) (handles : List (List Char × List UInt8)) : Reading :=
    { tokens, fault? := t.fault?, handles }
  let finish (read : Node × Reading) : Document := finishDocument read.1 read.2
  unfold readDocument
  rw [show t.placeless.tokens = t.tokens.map Token.placeless from rfl]
  cases t.tokens with
  | nil => exact starved_placeless (opened [] defaultHandles)
  | cons token rest =>
    have directives := readDirectives_placeless (token :: rest) false []
    have fuel := nodeFuel_placeless (token :: rest)
    obtain ⟨mark, symbol⟩ := token
    simp only [List.map_cons, Token.placeless_mk] at directives fuel ⊢
    rw [directives, fuel]
    split
    · rfl
    split
    · cases readDirectives (⟨mark, symbol⟩ :: rest) false [] with
      | error fault => rfl
      | ok read =>
        obtain ⟨handles, others⟩ := read
        simp only [Except.map, Except.mapError, Prod.map, id]
        cases others with
        | nil => exact starved_placeless (opened (⟨mark, symbol⟩ :: rest) defaultHandles)
        | cons token others =>
          obtain ⟨place, symbol⟩ := token
          simp only [List.map_cons, Token.placeless_mk]
          split
          · rw [nodeFuel_placeless]
            generalize nodeFuel others = n
            have part := (placeless n).part true false Symbol.endsDocument (opened others handles)
            exact (congrArg finish part).trans (finishDocument_placeless _ _)
          · rfl
    · generalize nodeFuel (⟨mark, symbol⟩ :: rest) = n
      have node := (placeless n).node true false (opened (⟨mark, symbol⟩ :: rest) defaultHandles)
      exact (congrArg finish node).trans (finishDocument_placeless _ _)

end Frontmark.Yaml
