import Frontmark.Proofs.Yaml.Scalar
import Frontmark.Proofs.Yaml.Verbatim
import Frontmark.Yaml.Tokens

/-! One token after the other, within a margin. -/

set_option autoImplicit false

namespace Frontmark.Yaml

open Frontmark.Text

/-- How many flow collections are open behind a symbol. -/
def Symbol.flows (before : Nat) : Symbol → Nat
  | sequenceStart | mappingStart => before + 1
  | sequenceEnd | mappingEnd => before - 1
  | _ => before

/-- A symbol that neither opens nor closes a flow collection, nor ends the text. -/
def Symbol.isPlain : Symbol → Bool
  | sequenceStart | mappingStart | sequenceEnd | mappingEnd | textEnd => false
  | _ => true

theorem Symbol.flows_of_isPlain {s : Symbol} (plain : s.isPlain = true) (before : Nat) : s.flows before = before := by
  cases s <;> first | rfl | cases plain

/-- How many flow collections are open behind some tokens, of which the last one comes first. -/
def openFlows (tokens : List Token) : Nat :=
  tokens.foldr (fun t before => t.symbol.flows before) 0

theorem openFlows_cons (t : Token) (earlier : List Token) : openFlows (t :: earlier) = t.symbol.flows (openFlows earlier) :=
  rfl

theorem openFlows_cons_of_isPlain {t : Token} (plain : t.symbol.isPlain = true) (earlier : List Token) :
    openFlows (t :: earlier) = openFlows earlier :=
  Symbol.flows_of_isPlain plain _

theorem openFlows_insert {t : Token} (plain : t.symbol.isPlain = true) (later earlier : List Token) :
    openFlows (later ++ t :: earlier) = openFlows (later ++ earlier) := by
  induction later with
  | nil => exact openFlows_cons_of_isPlain plain earlier
  | cons s later ih => rw [List.cons_append, List.cons_append, openFlows_cons, openFlows_cons, ih]

namespace Margin

variable (w : Margin)

def candidate (k : Candidate) : Candidate :=
  { k with mark := w.mark k.mark }

def layout (l : Layout) : Layout where
  cursor := w.cursor l.cursor
  tokens := l.tokens.map w.token
  count := l.count
  count_eq := by rw [List.length_map, l.count_eq]
  indents := l.indents
  candidate? := l.candidate?.map w.candidate
  enclosing := l.enclosing.map (·.map w.candidate)
  keyAllowed := l.keyAllowed
  ended := l.ended

end Margin

namespace Layout

variable {w : Margin} {l : Layout}

@[simp] theorem layout_inFlow : (w.layout l).inFlow = l.inFlow := by
  simp [inFlow, Margin.layout]

@[simp] theorem layout_mark : (w.layout l).mark = w.mark l.mark := rfl

theorem layout_put (mark : Mark) (symbol : Symbol) : (w.layout l).put (w.mark mark) symbol = w.layout (l.put mark symbol) := rfl

theorem layout_insertAt (position : Nat) (t : Token) :
    (w.layout l).insertAt position (w.token t) = w.layout (l.insertAt position t) := by
  simp [insertAt, Margin.layout, List.map_take, List.map_drop]

theorem layout_openBlock (column : Nat) (position? : Option Nat) (mark : Mark) (symbol : Symbol) :
    (w.layout l).openBlock column position? (w.mark mark) symbol = w.layout (l.openBlock column position? mark symbol) := by
  unfold openBlock
  rw [layout_inFlow, show (w.layout l).indents = l.indents from rfl]
  split_ifs
  · rfl
  · cases position? with
    | none => rfl
    | some position => exact layout_insertAt (l := { l with indents := column :: l.indents }) position ⟨mark, symbol⟩

theorem layout_closed (mark : Mark) (indents : List Nat) :
    indents.foldl (fun closed _ => closed.put (w.mark mark) .blockEnd) (w.layout l) =
      w.layout (indents.foldl (fun closed _ => closed.put mark .blockEnd) l) := by
  induction indents generalizing l with
  | nil => rfl
  | cons indent indents ih =>
    rw [List.foldl_cons, List.foldl_cons, layout_put, ih]

theorem layout_closeBlocks (column? : Option Nat) : (w.layout l).closeBlocks column? = w.layout (l.closeBlocks column?) := by
  unfold closeBlocks
  rw [layout_inFlow, layout_mark, show (w.layout l).indents = l.indents from rfl]
  split_ifs
  · rfl
  · simp only [layout_closed]
    rfl

theorem layout_take {n : Nat} (enough : n ≤ l.cursor.rest.length) (symbol : Symbol) :
    (w.layout l).take n symbol = w.layout (l.take n symbol) := by
  unfold take
  rw [show (w.layout l).cursor = w.cursor l.cursor from rfl, w.skipMany_cursor enough]
  rfl

/-- What stays when blocks are opened and closed and candidates come and go. -/
structure Keeps (l a : Layout) : Prop where
  cursor : a.cursor = l.cursor
  ended : a.ended = l.ended
  keyAllowed : a.keyAllowed = l.keyAllowed
  enclosing : a.enclosing.length = l.enclosing.length
  flows : openFlows a.tokens = openFlows l.tokens
  unended : (∀ t ∈ l.tokens, t.symbol ≠ .textEnd) → ∀ t ∈ a.tokens, t.symbol ≠ .textEnd

namespace Keeps

variable {a b : Layout}

theorem refl (l : Layout) : Keeps l l :=
  ⟨rfl, rfl, rfl, rfl, rfl, id⟩

theorem trans (first : Keeps l a) (second : Keeps a b) : Keeps l b :=
  ⟨second.cursor.trans first.cursor, second.ended.trans first.ended, second.keyAllowed.trans first.keyAllowed,
    second.enclosing.trans first.enclosing, second.flows.trans first.flows, second.unended ∘ first.unended⟩

theorem insertAt (position : Nat) {t : Token} (plain : t.symbol.isPlain = true) : Keeps l (l.insertAt position t) := by
  have ordinary : t.symbol ≠ .textEnd := fun same => by simp [same, Symbol.isPlain] at plain
  refine ⟨rfl, rfl, rfl, rfl, ?_, fun unended s mem => ?_⟩
  · simp only [Layout.insertAt]
    rw [openFlows_insert plain, List.take_append_drop]
  · rcases List.mem_append.mp mem with mem | mem
    · exact unended s (List.mem_of_mem_take mem)
    · rcases List.mem_cons.mp mem with rfl | mem
      · exact ordinary
      · exact unended s (List.mem_of_mem_drop mem)

theorem put (mark : Mark) {symbol : Symbol} (plain : symbol.isPlain = true) : Keeps l (l.put mark symbol) := by
  have ordinary : symbol ≠ .textEnd := fun same => by simp [same, Symbol.isPlain] at plain
  refine ⟨rfl, rfl, rfl, rfl, openFlows_cons_of_isPlain plain _, fun unended s mem => ?_⟩
  rcases List.mem_cons.mp mem with rfl | mem
  · exact ordinary
  · exact unended s mem

theorem openBlock (column : Nat) (position? : Option Nat) (mark : Mark) (symbol : Symbol) (plain : symbol.isPlain = true) :
    Keeps l (l.openBlock column position? mark symbol) := by
  unfold Layout.openBlock
  split_ifs
  · exact refl l
  · have opened : Keeps l { l with indents := column :: l.indents } := ⟨rfl, rfl, rfl, rfl, rfl, id⟩
    cases position? with
    | none => exact opened.trans (put mark plain)
    | some position => exact opened.trans (insertAt position (t := ⟨mark, symbol⟩) plain)

theorem closed (mark : Mark) (indents : List Nat) :
    Keeps l (indents.foldl (fun closed _ => closed.put mark .blockEnd) l) := by
  induction indents generalizing l with
  | nil => exact refl l
  | cons indent indents ih => exact (put mark rfl).trans ih

theorem closeBlocks (column? : Option Nat) : Keeps l (l.closeBlocks column?) := by
  unfold Layout.closeBlocks
  split_ifs
  · exact refl l
  · have closed := closed (l := l) l.mark (l.indents.takeWhile fun indent => column?.all (· < indent))
    exact closed.trans ⟨rfl, rfl, rfl, rfl, rfl, id⟩

end Keeps

/-- The same happens within a margin, and blocks and candidates are all that it concerns. -/
def Settles (w : Margin) (l a b : Layout) : Prop :=
  b = w.layout a ∧ Keeps l a

theorem dropCandidate_agree : Agree (Settles w l) l.dropCandidate (w.layout l).dropCandidate := by
  unfold dropCandidate
  rw [show (w.layout l).candidate? = l.candidate?.map w.candidate from rfl]
  cases candidate : l.candidate? with
  | none => exact ⟨rfl, .refl l⟩
  | some k => exact .ite Iff.rfl (fun _ => trivial) fun _ => ⟨rfl, ⟨rfl, rfl, rfl, rfl, rfl, id⟩⟩

theorem noteCandidate_agree : Agree (Settles w l) l.noteCandidate (w.layout l).noteCandidate := by
  unfold noteCandidate
  refine .ite Iff.rfl (fun _ => ?_) fun _ => ⟨rfl, .refl l⟩
  rw [layout_inFlow]
  refine dropCandidate_agree.bind ?_
  rintro a _ ⟨rfl, keeps⟩
  exact ⟨rfl, keeps.trans ⟨rfl, rfl, rfl, rfl, rfl, id⟩⟩

theorem isStale_candidate (k : Candidate) (m : Mark) : (w.candidate k).isStale (w.mark m) = k.isStale m := by
  simp only [Candidate.isStale, Margin.candidate, Margin.mark, Nat.add_assoc, Nat.add_lt_add_iff_left]

theorem checkStale_agree (k? : Option Candidate) :
    Agree (fun a b => b = a.map w.candidate) (l.checkStale k?) ((w.layout l).checkStale (k?.map w.candidate)) := by
  cases k? with
  | none => exact rfl
  | some k =>
    refine .ite (by rw [layout_mark, isStale_candidate]) (fun _ => ?_) fun _ => rfl
    exact .ite Iff.rfl (fun _ => trivial) fun _ => rfl

theorem checkStale_mapM_agree (enclosing : List (Option Candidate)) :
    Agree (fun a b => b = a.map (·.map w.candidate) ∧ a.length = enclosing.length) (enclosing.mapM l.checkStale)
      ((enclosing.map (·.map w.candidate)).mapM (w.layout l).checkStale) := by
  induction enclosing with
  | nil => exact ⟨rfl, rfl⟩
  | cons k? enclosing ih =>
    rw [List.map_cons, List.mapM_cons, List.mapM_cons]
    refine (checkStale_agree k?).bind ?_
    rintro first _ rfl
    refine ih.bind ?_
    rintro others _ ⟨rfl, length⟩
    exact ⟨rfl, congrArg (· + 1) length⟩

theorem dropStale_agree : Agree (Settles w l) l.dropStale (w.layout l).dropStale := by
  unfold dropStale
  refine (checkStale_mapM_agree l.enclosing).bind ?_
  rintro enclosing _ ⟨rfl, length⟩
  refine (checkStale_agree l.candidate?).bind ?_
  rintro candidate? _ rfl
  exact ⟨rfl, ⟨rfl, rfl, rfl, length, rfl, id⟩⟩

end Layout

end Frontmark.Yaml
