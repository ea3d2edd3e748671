import Frontmark.Yaml.Node
import Frontmark.Yaml.Tokens

/-! Reading the nodes of a document from its tokens.

A fault ends the reading; the nodes that were read until then are kept, with a stop in the place of the
next one, since something can be wrong with them as well. -/

set_option autoImplicit false

namespace Frontmark.Yaml

inductive Stop where
  | malformed (fault : Malformed)
  | unknownAnchor (mark : Mark)
  deriving DecidableEq, Repr

structure Reading where
  tokens : List Token
  /-- Why there are no more tokens. -/
  fault? : Option Malformed
  handles : List (List Char × List UInt8) := []
  /-- The names of anchors with their numbers. -/
  names : List (List Char × Nat) := []
  /-- How many scalars, aliases, and starts and ends of collections have been passed. -/
  events : Nat := 0
  stop? : Option Stop := none

namespace Reading

def symbol? (r : Reading) : Option Symbol :=
  r.tokens.head?.map Token.symbol

def drop (r : Reading) : Reading :=
  { r with tokens := r.tokens.tail }

def count (r : Reading) : Reading :=
  { r with events := r.events + 1 }

def isStopped (r : Reading) : Bool :=
  r.stop?.isSome

def halt (r : Reading) (fault : Malformed) : Reading :=
  { r with stop? := some (.malformed fault) }

/-- There are no tokens left. -/
def starve (r : Reading) : Reading :=
  r.halt (r.fault?.getD { problem := .endOfText })

/-- A name that is given again gets a new number, but is not counted as another name. -/
def name (r : Reading) (name? : Option (List Char)) : Option Nat × Reading :=
  match name? with
  | none => (none, r)
  | some name =>
    let number := r.names.length
    let others := r.names.filter (·.1 ≠ name)
    (some number, { r with names := (name, number) :: others })

/-- A node with no text of its own. -/
def empty (r : Reading) (mark : Mark) : Node × Reading :=
  (.scalar { mark } true "", r.count)

end Reading

/-- What precedes a node. -/
structure Preamble where
  mark : Mark
  name? : Option (List Char) := none
  tag? : Option (Mark × List Char × List UInt8) := none

/-- Read an anchor and a tag, in either order. -/
def readPreamble (mark : Mark) (tokens : List Token) : Preamble × List Token :=
  match tokens with
  | ⟨_, .anchor name⟩ :: ⟨at', .tag handle suffix⟩ :: rest => (⟨mark, some name, some (at', handle, suffix)⟩, rest)
  | ⟨at', .tag handle suffix⟩ :: ⟨_, .anchor name⟩ :: rest => (⟨mark, some name, some (at', handle, suffix)⟩, rest)
  | ⟨_, .anchor name⟩ :: rest => (⟨mark, some name, none⟩, rest)
  | ⟨at', .tag handle suffix⟩ :: rest => (⟨mark, none, some (at', handle, suffix)⟩, rest)
  | rest => (⟨mark, none, none⟩, rest)

/-- The tag in full. -/
def Reading.tag (r : Reading) (p : Preamble) : Except Malformed (Option (List UInt8)) :=
  match p.tag? with
  | none => .ok none
  | some (at', handle, suffix) =>
    if handle.isEmpty then .ok (some suffix)
    else
      match r.handles.find? (·.1 = handle) with
      | some (_, start) => .ok (some (start ++ suffix))
      | none => .error { problem := .unknownHandle, mark := at', within? := some (.node, p.mark) }

def Symbol.endsDash (indentless : Bool) : Symbol → Bool
  | dash | blockEnd => true
  | key | value => indentless
  | _ => false

def Symbol.endsBlockEntry : Symbol → Bool
  | key | value | blockEnd => true
  | _ => false

def Symbol.endsItem : Symbol → Bool
  | comma | sequenceEnd => true
  | _ => false

def Symbol.endsPairKey : Symbol → Bool
  | value | comma | sequenceEnd => true
  | _ => false

def Symbol.endsFlowEntry : Symbol → Bool
  | comma | mappingEnd => true
  | _ => false

def Symbol.endsFlowKey : Symbol → Bool
  | value | comma | mappingEnd => true
  | _ => false

mutual

/-- Read a node. Without `block` it belongs to a flow collection; with `indentless` it can be a sequence whose
dashes stand no further in than the key that it belongs to. -/
def readNode : Nat → (block indentless : Bool) → Reading → Node × Reading
  | 0, _, _, r => (.stop, r.starve)
  | fuel + 1, block, indentless, r =>
    match r.tokens with
    | [] => (.stop, r.starve)
    | ⟨mark, .reference name⟩ :: _ =>
      match r.names.find? (·.1 = name) with
      | some (_, number) => (.reference mark number, r.drop.count)
      | none => (.stop, { r with stop? := some (.unknownAnchor mark) })
    | ⟨mark, _⟩ :: _ =>
      let (p, tokens) := readPreamble mark r.tokens
      match tokens with
      | [] => (.stop, r.starve)
      | token :: _ =>
        match r.tag p with
        | .error fault => (.stop, r.halt fault)
        | .ok tag? =>
          let (anchor?, named) := { r with tokens }.name p.name?
          let q : Properties := ⟨mark, anchor?, tag?⟩
          let within (read : Reading → List Node × Reading) (r : Reading) : Node × Reading :=
            let (items, r) := read r.count
            (.sequence q items, r)
          let withinPairs (read : Reading → List (Node × Node) × Reading) (r : Reading) : Node × Reading :=
            let (entries, r) := read r.count
            (.mapping q entries, r)
          match token.symbol, block with
          | .scalar style text, _ => (.scalar q (style = .plain) (String.ofList text), named.drop.count)
          | .sequenceStart, _ => within (readFlowItems fuel true token.mark) named.drop
          | .mappingStart, _ => withinPairs (readFlowEntries fuel true token.mark) named.drop
          | .blockSequence, true => within (readDashes fuel false token.mark) named.drop
          | .blockMapping, true => withinPairs (readBlockEntries fuel token.mark) named.drop
          | symbol, _ =>
            if symbol = .dash && indentless then within (readDashes fuel true token.mark) named
            else if anchor?.isSome || tag?.isSome then (.scalar q true "", named.count)
            else (.stop, r.halt ⟨.noContent, token.mark, 0, some (if block then .blockNode else .flowNode, mark)⟩)

/-- Read a node, which is empty if one of the symbols `ends` follows. -/
def readPart : Nat → (block indentless : Bool) → (ends : Symbol → Bool) → Reading → Node × Reading
  | 0, _, _, _, r => (.stop, r.starve)
  | fuel + 1, block, indentless, ends, r =>
    match r.tokens with
    | [] => (.stop, r.starve)
    | token :: _ => if ends token.symbol then r.empty token.mark else readNode fuel block indentless r

/-- Read the value that a colon announces. Without one it is empty. -/
def readValue : Nat → (block : Bool) → (ends : Symbol → Bool) → Reading → Node × Reading
  | 0, _, _, r => (.stop, r.starve)
  | fuel + 1, block, ends, r =>
    match r.tokens with
    | [] => (.stop, r.starve)
    | ⟨mark, symbol⟩ :: _ => if symbol = .value then readPart fuel block block ends r.drop else r.empty mark

/-- Read the items of a block sequence. -/
def readDashes : Nat → (indentless : Bool) → (start : Mark) → Reading → List Node × Reading
  | 0, _, _, r => ([.stop], r.starve)
  | fuel + 1, indentless, start, r =>
    match r.tokens with
    | [] => ([.stop], r.starve)
    | ⟨mark, symbol⟩ :: _ =>
      if symbol = .dash then
        let (item, r) := readPart fuel true false (Symbol.endsDash indentless) r.drop
        if r.isStopped then ([item], r)
        else
          let (items, r) := readDashes fuel indentless start r
          (item :: items, r)
      else if indentless then ([], r.count)
      else if symbol = .blockEnd then ([], r.drop.count)
      else ([.stop], r.halt ⟨.noDash, mark, 0, some (.blockSequence, start)⟩)

/-- Read the entries of a block mapping. -/
def readBlockEntries : Nat → (start : Mark) → Reading → List (Node × Node) × Reading
  | 0, _, r => ([(.stop, .stop)], r.starve)
  | fuel + 1, start, r =>
    match r.tokens with
    | [] => ([(.stop, .stop)], r.starve)
    | ⟨mark, symbol⟩ :: _ =>
      if symbol = .blockEnd then ([], r.drop.count)
      else if symbol = .key then
        let (key, r) := readPart fuel true true Symbol.endsBlockEntry r.drop
        if r.isStopped then ([(key, .stop)], r)
        else
          let (value, r) := readValue fuel true Symbol.endsBlockEntry r
          if r.isStopped then ([(key, value)], r)
          else
            let (entries, r) := readBlockEntries fuel start r
            ((key, value) :: entries, r)
      else ([(.stop, .stop)], r.halt ⟨.noKey, mark, 0, some (.blockMapping, start)⟩)

/-- Read the items of a flow sequence. An entry among them is a mapping of its own. -/
def readFlowItems : Nat → (first : Bool) → (start : Mark) → Reading → List Node × Reading
  | 0, _, _, r => ([.stop], r.starve)
  | fuel + 1, first, start, r =>
    match r.tokens with
    | [] => ([.stop], r.starve)
    | ⟨mark, symbol⟩ :: _ =>
      if symbol = .sequenceEnd then ([], r.drop.count)
      else if !first && symbol ≠ .comma then
        ([.stop], r.halt ⟨.noCommaOrBracket, mark, 0, some (.flowSequence, start)⟩)
      else
        let r := if first then r else r.drop
        match r.tokens with
        | [] => ([.stop], r.starve)
        | ⟨at', symbol⟩ :: _ =>
          if symbol = .sequenceEnd then ([], r.drop.count)
          else
            let (item, r) := if symbol = .key then readPair fuel at' r.drop.count else readNode fuel false false r
            if r.isStopped then ([item], r)
            else
              let (items, r) := readFlowItems fuel false start r
              (item :: items, r)

/-- Read an entry that is an item of a flow sequence. What follows an empty key is passed over. -/
def readPair : Nat → (start : Mark) → Reading → Node × Reading
  | 0, _, r => (.stop, r.starve)
  | fuel + 1, start, r =>
    let pair (key value : Node) : Node := .mapping { mark := start } [(key, value)]
    match r.tokens with
    | [] => (pair .stop .stop, r.starve)
    | ⟨mark, symbol⟩ :: _ =>
      let (key, r) := if symbol.endsPairKey then r.drop.empty mark else readNode fuel false false r
      if r.isStopped then (pair key .stop, r)
      else
        let (value, r) := readValue fuel false Symbol.endsItem r
        (pair key value, if r.isStopped then r else r.count)

/-- Read the entries of a flow mapping. -/
def readFlowEntries : Nat → (first : Bool) → (start : Mark) → Reading → List (Node × Node) × Reading
  | 0, _, _, r => ([(.stop, .stop)], r.starve)
  | fuel + 1, first, start, r =>
    match r.tokens with
    | [] => ([(.stop, .stop)], r.starve)
    | ⟨mark, symbol⟩ :: _ =>
      if symbol = .mappingEnd then ([], r.drop.count)
      else if !first && symbol ≠ .comma then
        ([(.stop, .stop)], r.halt ⟨.noCommaOrBrace, mark, 0, some (.flowMapping, start)⟩)
      else
        let r := if first then r else r.drop
        match r.tokens with
        | [] => ([(.stop, .stop)], r.starve)
        | ⟨_, symbol⟩ :: _ =>
          if symbol = .mappingEnd then ([], r.drop.count)
          else
            let (key, r) :=
              if symbol = .key then readPart fuel false false Symbol.endsFlowKey r.drop
              else readNode fuel false false r
            if r.isStopped then ([(key, .stop)], r)
            else
              let (value, r) := if symbol = .key then readValue fuel false Symbol.endsFlowEntry r else r.empty mark
              if r.isStopped then ([(key, value)], r)
              else
                let (entries, r) := readFlowEntries fuel false start r
                ((key, value) :: entries, r)

end

/-- A document, as far as it can be read. -/
structure Document where
  /-- There is no node in a text without any token. -/
  root? : Option Node
  events : Nat
  stop? : Option Stop
  /-- Whether something follows that is not part of the document. -/
  continues : Bool

def defaultHandles : List (List Char × List UInt8) :=
  [(['!'], Text.Utf8.encode ['!']), ("!!".toList, Text.Utf8.encode "tag:yaml.org,2002:".toList)]

/-- Read the directives before a document. -/
def readDirectives : List Token → (version : Bool) → (handles : List (List Char × List UInt8)) →
    Except Malformed (List (List Char × List UInt8) × List Token)
  | ⟨mark, .version major minor⟩ :: rest, version, handles =>
    if version then .error { problem := .repeatedVersion, mark }
    else if major = 1 && (minor = 1 || minor = 2) then readDirectives rest true handles
    else .error { problem := .otherVersion, mark }
  | ⟨mark, .shorthand handle start⟩ :: rest, version, handles =>
    if handles.any (·.1 = handle) then .error { problem := .repeatedHandle, mark }
    else readDirectives rest version (handles ++ [(handle, start)])
  | rest, _, handles => .ok (handles ++ defaultHandles, rest)

def Symbol.startsDocument : Symbol → Bool
  | version .. | shorthand .. | documentStart => true
  | _ => false

def Symbol.endsDocument (s : Symbol) : Bool :=
  s.startsDocument || s = .documentEnd || s = .textEnd

def nodeFuel (tokens : List Token) : Nat :=
  4 * tokens.length + 8

/-- Read the end of a document after its root. -/
def finishDocument (root : Node) (r : Reading) : Document :=
  match r.stop?, r.tokens with
  | some stop, _ => ⟨some root, r.events, some stop, false⟩
  | none, [] => ⟨some root, r.events, r.starve.stop?, false⟩
  | none, tokens => ⟨some root, r.events, none, (tokens.dropWhile (·.symbol = .documentEnd)).head?.map Token.symbol ≠ some .textEnd⟩

def stoppedDocument (fault : Malformed) : Document :=
  ⟨some .stop, 0, some (.malformed fault), false⟩

def readDocument (t : Tokens) : Document :=
  let r : Reading := { tokens := t.tokens, fault? := t.fault?, handles := defaultHandles }
  match t.tokens with
  | [] => ⟨some .stop, 0, r.starve.stop?, false⟩
  | token :: _ =>
    if token.symbol = .textEnd then ⟨none, 1, none, false⟩
    else if token.symbol.startsDocument then
      match readDirectives t.tokens false [] with
      | .error fault => stoppedDocument fault
      | .ok (handles, rest) =>
        match rest with
        | [] => ⟨some .stop, 0, r.starve.stop?, false⟩
        | ⟨mark, symbol⟩ :: rest =>
          if symbol = .documentStart then
            let r := { r with tokens := rest, handles }
            let (root, r) := readPart (nodeFuel rest) true false Symbol.endsDocument r
            finishDocument root r
          else stoppedDocument { problem := .noDocumentStart, mark }
    else
      let (root, r) := readNode (nodeFuel t.tokens) true false r
      finishDocument root r

end Frontmark.Yaml
