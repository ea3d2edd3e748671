import Frontmark.Proofs.Markup.Merged
import Frontmark.Proofs.Markup.Tokens
import Frontmark.Proofs.Text.Lines

/-! Pages of notes: documents of lines of marked words.

A line is made of words between single spaces, each plain, emphasized, as code or as a link. Lines are paragraphs of their
own, items or quotations, and there are blocks of code, breaks and a heading at the end. No word looks like a marker.
Main statement: pages with the same rendering are the same page (`Page.merged_eq_of_render_eq`). -/

set_option autoImplicit false

namespace Frontmark.Notes

open Frontmark.Markup (ListStyle RoseTree Value append_cons_unique dropLineBreak eq_of_dropLineBreak_eq render render_eq render_merged)
open Frontmark.Markup.RoseTree (spell spellAll spellAll_append spliced splicedAll splicedAll_append)
open Frontmark.Text (lines_of_notMem lines_terminated_append terminated terminated_append)

/-- What no rendering tells of the nodes of a page, the same in all of them. -/
structure Defaults where
  ticks : Nat := 1
  fenced : Bool := true
  setext : Bool := false
  title : String := ""
  start : Nat := 1
  tight : Bool := false

def Defaults.style (d : Defaults) (ordered : Bool) : ListStyle :=
  { ordered, delimiter := .period, start := d.start, tight := d.tight }

def isSmall (c : Char) : Bool :=
  'a' ≤ c && c ≤ 'z'

structure Word where
  chars : List Char
  some_ : chars ≠ []
  letters : ∀ c ∈ chars, isSmall c = true

def Word.text (w : Word) : String :=
  String.ofList w.chars

/-- A word in a line. -/
inductive Mark where
  | text (w : Word)
  | emph (w : Word)
  | strong (w : Word)
  | code (w : Word)
  | link (page w : Word)

structure Line where
  first : Mark
  others : List Mark

inductive Block where
  | paragraph (l : Line)
  | list (ordered : Bool) (items : List Line)
  | blockQuote (l : Line)
  | code (info first : Word) (others : List Word)
  | thematicBreak

structure Heading where
  level : Fin 6
  line : Line

structure Page where
  blocks : List Block
  heading? : Option Heading

section Trees

variable (d : Defaults)

def Word.tree (w : Word) : RoseTree Value :=
  .node (.text w.text) []

def site : String := "https://example.com/"

def Mark.tree : Mark → RoseTree Value
  | text w => w.tree
  | emph w => .node .emph [w.tree]
  | strong w => .node .strong [w.tree]
  | code w => .node (.code w.text d.ticks) []
  | link page w => .node (.link (site ++ page.text) d.title) [w.tree]

def Line.trees (l : Line) : List (RoseTree Value) :=
  l.first.tree d :: l.others.flatMap fun m => [.node (.text " ") [], m.tree d]

def Line.item (ordered : Bool) (l : Line) : RoseTree Value :=
  .node (.item (d.style ordered)) [.node .paragraph (l.trees d)]

def Block.tree : Block → RoseTree Value
  | paragraph l => .node .paragraph (l.trees d)
  | list ordered items => .node (.list (d.style ordered)) (items.map (Line.item d ordered))
  | blockQuote l => .node .blockQuote [.node .paragraph (l.trees d)]
  | code info first others =>
    .node (.codeBlock info.text (String.ofList (terminated ((first :: others).map Word.chars))) d.fenced) []
  | thematicBreak => .node .thematicBreak []

/-- The first level has one number sign. -/
def Heading.tree (h : Heading) : RoseTree Value :=
  .node (.heading (h.level + 1) d.setext) (h.line.trees d)

def Page.tree (p : Page) : RoseTree Value :=
  .node .document (p.blocks.map (Block.tree d) ++ (p.heading?.map (Heading.tree d)).toList)

end Trees

section Words

variable {w w' : Word} {c : Char}

theorem Word.eq_of_chars (same : w.chars = w'.chars) : w = w' := by
  cases w
  cases w'
  cases same
  rfl

theorem Word.notMem (w : Word) (other : isSmall c = false) : c ∉ w.chars := by
  intro member
  rw [w.letters c member] at other
  cases other

theorem Word.exists_first (w : Word) : ∃ c more, w.chars = c :: more ∧ isSmall c = true := by
  obtain ⟨c, more, whole⟩ := List.exists_cons_of_ne_nil w.some_
  exact ⟨c, more, whole, w.letters c (whole ▸ List.mem_cons_self)⟩

end Words

section Marks

def Mark.chars : Mark → List Char
  | text w => w.chars
  | emph w => '*' :: (w.chars ++ ['*'])
  | strong w => '*' :: '*' :: (w.chars ++ ['*', '*'])
  | code w => '\x60' :: (w.chars ++ ['\x60'])
  | link page w => '[' :: (w.chars ++ ']' :: '(' :: (site.toList ++ page.chars ++ [')']))

/-- How a mark begins, up to its word. -/
def Mark.sign : Mark → List Char
  | text _ => []
  | emph _ => ['*']
  | strong _ => ['*', '*']
  | code _ => ['\x60']
  | link .. => ['[']

theorem Mark.exists_sign (m : Mark) : ∃ c more, m.chars = m.sign ++ c :: more ∧ isSmall c = true := by
  cases m with
  | text w | emph w | strong w | code w | link page w =>
    obtain ⟨c, more, whole, letter⟩ := w.exists_first
    exact ⟨c, _, by rw [chars, whole]; rfl, letter⟩

/-- The signs hold no letters, so a mark tells its sign. -/
theorem Mark.sign_eq {m m' : Mark} {r r' : List Char} (same : m.chars ++ r = m'.chars ++ r') : m.sign = m'.sign := by
  have cut (m : Mark) (r : List Char) : (m.chars ++ r).takeWhile (! isSmall ·) = m.sign := by
    obtain ⟨c, more, whole, letter⟩ := m.exists_sign
    have sign : ∀ c ∈ m.sign, (! isSmall c) = true := by cases m <;> simp [Mark.sign] <;> decide
    rw [whole, List.append_assoc, List.takeWhile_append_of_pos sign, List.cons_append, List.takeWhile_cons_of_neg (by simp [letter]),
      List.append_nil]
  rw [← cut m r, same, cut]

theorem Mark.eq_of_chars {m m' : Mark} (same : m.chars = m'.chars) : m = m' := by
  have sign : m.sign = m'.sign := Mark.sign_eq (congrArg (· ++ []) same)
  cases m <;> cases m' <;> simp [Mark.sign] at sign
  case text w w' => exact congrArg _ (Word.eq_of_chars same)
  case emph w w' => exact congrArg _ (Word.eq_of_chars (by simpa [chars] using same))
  case strong w w' => exact congrArg _ (Word.eq_of_chars (by simpa [chars] using same))
  case code w w' => exact congrArg _ (Word.eq_of_chars (by simpa [chars] using same))
  case link page w page' w' =>
    have outer : ']' ∉ w.chars ∧ ']' ∉ w'.chars := ⟨w.notMem (by decide), w'.notMem (by decide)⟩
    obtain ⟨inner, rest⟩ := append_cons_unique outer.1 outer.2 (List.cons.inj same).2
    have pages : page.chars = page'.chars := by simpa using rest
    rw [Word.eq_of_chars inner, Word.eq_of_chars pages]

theorem Mark.notMem (m : Mark) {c : Char} (space : c = ' ' ∨ c = '\n') : c ∉ m.chars := by
  have other : isSmall c = false ∧ c ∉ "*\x60[]()".toList ∧ c ∉ site.toList := by
    obtain rfl | rfl := space <;> decide
  obtain ⟨letter, marker, address⟩ := other
  have noWord (w : Word) : c ∉ w.chars := w.notMem letter
  simp only [String.reduceToList, List.mem_cons, List.not_mem_nil, or_false, not_or] at marker
  cases m <;> simp [chars, noWord, marker, address]

end Marks

section Lines

def Line.marks (l : Line) : List Mark :=
  l.first :: l.others

def Line.chars (l : Line) : List Char :=
  [' '].intercalate (l.marks.map Mark.chars)

theorem Line.eq_of_chars {l l' : Line} (same : l.chars = l'.chars) : l = l' := by
  have cut (l : Line) : l.chars.splitOn ' ' = l.marks.map Mark.chars := by
    refine List.splitOn_intercalate ' ' ?_ (by simp [marks])
    intro text member
    obtain ⟨m, -, rfl⟩ := List.mem_map.mp member
    exact m.notMem (.inl rfl)
  have marks : l.marks = l'.marks := by
    refine List.map_injective_iff.mpr (fun m m' => Mark.eq_of_chars) ?_
    rw [← cut l, same, cut l']
  cases l
  cases l'
  cases marks
  rfl

theorem Line.chars_cons (first second : Mark) (others : List Mark) :
    Line.chars ⟨first, second :: others⟩ = first.chars ++ ' ' :: Line.chars ⟨second, others⟩ := by
  simp [chars, marks, List.intercalate_cons_of_ne_nil]

theorem Line.newline_notMem (l : Line) : '\n' ∉ l.chars := by
  obtain ⟨first, others⟩ := l
  induction others generalizing first with
  | nil => simpa [chars, marks] using first.notMem (.inr rfl)
  | cons second others ih => simp [chars_cons, ih second, first.notMem (.inr rfl)]

theorem Mark.toList_spell (d : Defaults) (m : Mark) : (m.tree d).spell.toList = m.chars := by
  cases m <;> simp [tree, Word.tree, Word.text, chars, spell, spellAll]

theorem Line.toList_spellAll (d : Defaults) (l : Line) : (spellAll (l.trees d)).toList = l.chars := by
  obtain ⟨first, others⟩ := l
  induction others generalizing first with
  | nil => simp [trees, chars, marks, spellAll, Mark.toList_spell]
  | cons second others ih =>
    have rest : spellAll (Line.trees d ⟨first, second :: others⟩) =
        (first.tree d).spell ++ (" " ++ spellAll (Line.trees d ⟨second, others⟩)) := by
      simp [trees, spellAll, spell]
    rw [rest, String.toList_append, String.toList_append, ih second, Mark.toList_spell, chars_cons]
    rfl

/-- No line begins like another block. -/
theorem Line.exists_sign (l : Line) : ∃ c more, l.chars = l.first.sign ++ c :: more ∧ isSmall c = true := by
  obtain ⟨c, more, whole, letter⟩ := l.first.exists_sign
  obtain ⟨first, others⟩ := l
  cases others with
  | nil => exact ⟨c, more, by simpa [chars, marks] using whole, letter⟩
  | cons second others => exact ⟨c, _, by rw [chars_cons, whole, List.append_assoc, List.cons_append], letter⟩

end Lines

section Entries

/-- What stands before a line. -/
inductive Marker where
  | none
  | bullet
  | number
  | quote

def Marker.chars : Marker → List Char
  | none => []
  | bullet => "* ".toList
  | number => "1. ".toList
  | quote => "> ".toList

/-- A block, or an item of a list. -/
inductive Entry where
  | marked (marker : Marker) (l : Line)
  | code (info first : Word) (others : List Word)
  | thematicBreak

def fence : List Char :=
  "\x60\x60\x60".toList

/-- The lines of an entry, and the empty line after it. -/
def Entry.lines : Entry → List (List Char)
  | marked marker l => [marker.chars ++ l.chars, []]
  | code info first others => (fence ++ ' ' :: info.chars) :: ((first :: others).map Word.chars ++ [fence, []])
  | thematicBreak => ["---".toList, []]

/-- What the first characters of an entry tell: a marker that needs a second character to be one, by that, or any other
by its first. -/
def front : List Char → Option Char
  | '*' :: ' ' :: _ => '*'
  | '\x60' :: '\x60' :: _ => '\x60'
  | c :: _ => if c ∈ "1>-".toList then some c else none
  | [] => none

theorem front_line (l : Line) (r : List Char) : front (l.chars ++ r) = none := by
  obtain ⟨c, more, whole, letter⟩ := l.exists_sign
  have other : ∀ d ∈ " *\x601>-".toList, c ≠ d := by
    rintro d member rfl
    rw [(by decide : ∀ d ∈ " *\x601>-".toList, isSmall d = false) c member] at letter
    cases letter
  simp only [String.reduceToList, List.forall_mem_cons] at other
  rw [whole]
  cases l.first <;> simp [Mark.sign, front, other]

/-- The character by which a marker is told. -/
def Marker.front? : Marker → Option Char
  | none => Option.none
  | bullet => '*'
  | number => '1'
  | quote => '>'

def Entry.front? : Entry → Option Char
  | marked marker _ => marker.front?
  | code .. => '\x60'
  | thematicBreak => '-'

theorem Marker.eq_of_front? {marker marker' : Marker} (same : marker.front? = marker'.front?) : marker = marker' := by
  cases marker <;> cases marker' <;> simp [front?] at same <;> rfl

theorem Entry.exists_lines (e : Entry) : ∃ first second others, e.lines = first :: second :: others ∧ front first = e.front? := by
  cases e with
  | marked marker l =>
    refine ⟨_, _, _, rfl, ?_⟩
    cases marker with
    | none => simpa [front?, Marker.front?, Marker.chars] using front_line l []
    | bullet | number | quote => rfl
  | code info first others => exact ⟨_, _, _, rfl, rfl⟩
  | thematicBreak => exact ⟨_, _, _, rfl, rfl⟩

/-- Words end where a fence stands. -/
theorem words_unique {ws ws' : List Word} {ls ls' : List (List Char)}
    (same : ws.map Word.chars ++ fence :: ls = ws'.map Word.chars ++ fence :: ls') : ws = ws' ∧ ls = ls' := by
  have other (ws : List Word) : fence ∉ ws.map Word.chars := by
    intro member
    obtain ⟨w, -, whole⟩ := List.mem_map.mp member
    exact w.notMem (by decide) (whole ▸ List.mem_cons_self : '\x60' ∈ w.chars)
  obtain ⟨words, rest⟩ := append_cons_unique (other ws) (other ws') same
  exact ⟨List.map_injective_iff.mpr (fun _ _ => Word.eq_of_chars) words, rest⟩

/-- An entry is told by its first characters, and ends where the next one begins. -/
theorem Entry.unique {e e' : Entry} {ls ls' : List (List Char)} (same : e.lines ++ ls = e'.lines ++ ls') :
    e = e' ∧ ls = ls' := by
  have kind : e.front? = e'.front? := by
    obtain ⟨first, _, _, whole, told⟩ := e.exists_lines
    obtain ⟨first', _, _, whole', told'⟩ := e'.exists_lines
    rw [whole, whole'] at same
    rw [← told, ← told', (List.cons.inj same).1]
  cases e <;> cases e'
  case marked.marked marker l marker' l' =>
    obtain rfl := Marker.eq_of_front? kind
    obtain ⟨line, rest⟩ := List.cons.inj same
    exact ⟨congrArg _ (Line.eq_of_chars (List.append_cancel_left line)), (List.cons.inj rest).2⟩
  case code.code info first others info' first' others' =>
    obtain ⟨opening, rest⟩ := List.cons.inj same
    have inner : (first :: others).map Word.chars ++ fence :: [] :: ls = (first' :: others').map Word.chars ++ fence :: [] :: ls' := by
      simpa using rest
    obtain ⟨words, after⟩ := words_unique inner
    obtain ⟨rfl, rfl⟩ := List.cons.inj words
    obtain rfl : info = info' := Word.eq_of_chars (List.cons.inj (List.append_cancel_left opening)).2
    exact ⟨rfl, (List.cons.inj after).2⟩
  case thematicBreak.thematicBreak => exact ⟨rfl, by simpa [lines] using same⟩
  -- the two are of different kinds, as their first characters would tell
  case marked.code marker _ _ _ _ => cases marker <;> simp [front?, Marker.front?] at kind
  case marked.thematicBreak marker _ => cases marker <;> simp [front?, Marker.front?] at kind
  case code.marked _ _ _ marker _ => cases marker <;> simp [front?, Marker.front?] at kind
  case thematicBreak.marked marker _ => cases marker <;> simp [front?, Marker.front?] at kind
  case code.thematicBreak => simp [front?] at kind
  case thematicBreak.code => simp [front?] at kind

theorem Entry.exists_lines_eq_concat (e : Entry) : ∃ before line, e.lines = before ++ [line, []] := by
  cases e with
  | marked marker l => exact ⟨[], _, rfl⟩
  | code info first others => exact ⟨(fence ++ ' ' :: info.chars) :: (first :: others).map Word.chars, fence, by simp [lines]⟩
  | thematicBreak => exact ⟨[], _, rfl⟩

theorem entries_unique {es es' : List Entry} {last last' : List Char}
    (same : es.flatMap Entry.lines ++ [last] = es'.flatMap Entry.lines ++ [last']) : es = es' ∧ last = last' := by
  have short {e : Entry} {es : List Entry} {last last' : List Char} : [last] ≠ (e :: es).flatMap Entry.lines ++ [last'] := by
    intro same
    obtain ⟨first, second, others, whole, -⟩ := e.exists_lines
    simp [whole] at same
  induction es generalizing es' with
  | nil =>
    cases es' with
    | nil => exact ⟨rfl, (List.cons.inj same).1⟩
    | cons e' es' => exact absurd same short
  | cons e es ih =>
    cases es' with
    | nil => exact absurd same.symm short
    | cons e' es' =>
      rw [List.flatMap_cons, List.flatMap_cons, List.append_assoc, List.append_assoc] at same
      obtain ⟨rfl, rest⟩ := Entry.unique same
      obtain ⟨rfl, rfl⟩ := ih rest
      exact ⟨rfl, rfl⟩

theorem Entry.newline_notMem (e : Entry) : ∀ line ∈ e.lines, '\n' ∉ line := by
  have noWord (w : Word) : '\n' ∉ w.chars := w.notMem (by decide)
  cases e with
  | marked marker l =>
    have sign : '\n' ∉ marker.chars := by cases marker <;> decide
    simp [lines, sign, l.newline_notMem]
  | code info first others =>
    have ticks : '\n' ∉ fence := by decide
    simp only [lines, List.forall_mem_cons, List.forall_mem_append, List.forall_mem_map, List.not_mem_nil]
    simp [noWord, ticks]
  | thematicBreak => decide

end Entries

section Pages

variable (d : Defaults)

/-- The blocks of a page, with its lists taken apart. -/
def Block.entries : Block → List Entry
  | paragraph l => [.marked .none l]
  | list ordered items => items.map (.marked (if ordered then .number else .bullet))
  | blockQuote l => [.marked .quote l]
  | code info first others => [.code info first others]
  | thematicBreak => [.thematicBreak]

def Page.entries (p : Page) : List Entry :=
  p.blocks.flatMap Block.entries

def Heading.chars (h : Heading) : List Char :=
  List.replicate (h.level + 1) '#' ++ ' ' :: h.line.chars

/-- The last line, which is empty if there is no heading. -/
def Page.last (p : Page) : List Char :=
  (p.heading?.map Heading.chars).getD []

theorem Heading.eq_of_chars {h h' : Heading} (same : h.chars = h'.chars) : h = h' := by
  obtain ⟨level, line⟩ := h
  obtain ⟨level', line'⟩ := h'
  have signs (n : Nat) : ' ' ∉ List.replicate n '#' := by simp
  obtain ⟨number, text⟩ := append_cons_unique (signs _) (signs _) same
  obtain rfl : level = level' := Fin.ext (by simpa using congrArg List.length number)
  obtain rfl : line = line' := Line.eq_of_chars text
  rfl

theorem Page.heading?_eq {p p' : Page} (same : p.last = p'.last) : p.heading? = p'.heading? := by
  rw [last, last] at same
  cases found : p.heading? <;> cases found' : p'.heading? <;> simp only [found, found', Option.map, Option.getD] at same
  · rfl
  · exact absurd same (by simp [Heading.chars])
  · exact absurd same (by simp [Heading.chars])
  · rw [Heading.eq_of_chars same]

/-- The node that an entry is. -/
def Entry.tree : Entry → RoseTree Value
  | marked .none l => .node .paragraph (l.trees d)
  | marked .bullet l => l.item d false
  | marked .number l => l.item d true
  | marked .quote l => .node .blockQuote [.node .paragraph (l.trees d)]
  | code info first others => Block.tree d (.code info first others)
  | thematicBreak => .node .thematicBreak []

theorem Block.spliced_tree (b : Block) : (b.tree d).spliced = splicedAll (b.entries.map (Entry.tree d)) := by
  cases b with
  | list ordered items =>
    cases ordered <;> simp [tree, spliced, entries, Function.comp_def, Entry.tree]
  | _ => simp [tree, entries, Entry.tree, splicedAll]

theorem Page.splicedAll_blocks (bs : List Block) :
    splicedAll (bs.map (Block.tree d)) = splicedAll ((bs.flatMap Block.entries).map (Entry.tree d)) := by
  induction bs with
  | nil => rfl
  | cons b bs ih =>
    rw [List.map_cons, splicedAll, ih, Block.spliced_tree, List.flatMap_cons, List.map_append, splicedAll_append]

/-- Nothing of the blocks is left but their entries. -/
theorem Page.merged_tree_eq {p p' : Page} (entries : p.entries = p'.entries) (heading : p.heading? = p'.heading?) :
    (p.tree d).merged = (p'.tree d).merged := by
  have same : p.blocks.flatMap Block.entries = p'.blocks.flatMap Block.entries := entries
  simp only [tree, RoseTree.merged, splicedAll_append, splicedAll_blocks, same, heading]

theorem Entry.toList_spell (e : Entry) : (e.tree d).spell.toList = terminated e.lines := by
  cases e with
  | marked marker l =>
    cases marker <;> simp [tree, Line.item, Defaults.style, lines, Marker.chars, spell, spellAll, l.toList_spellAll]
  | code info first others =>
    simp [tree, Block.tree, lines, fence, spell, Word.text, terminated]
  | thematicBreak => simp [tree, lines, spell]

theorem toList_spellAll_entries (es : List Entry) :
    (spellAll (es.map (Entry.tree d))).toList = terminated (es.flatMap Entry.lines) := by
  induction es with
  | nil => rfl
  | cons e es ih =>
    rw [List.map_cons, spellAll, String.toList_append, e.toList_spell, ih, List.flatMap_cons, terminated_append]

/-- The text of a page: the lines of its entries, and the last one, which has no line break after it. -/
theorem Page.toList_spell (p : Page) : (p.tree d).spell.toList = terminated (p.entries.flatMap Entry.lines) ++ p.last := by
  obtain ⟨blocks, heading?⟩ := p
  have above : (spellAll (blocks.map (Block.tree d))).toList = terminated ((blocks.flatMap Block.entries).flatMap Entry.lines) := by
    rw [← RoseTree.spellAll_splicedAll, Page.splicedAll_blocks, RoseTree.spellAll_splicedAll, toList_spellAll_entries]
  have below : (spellAll (heading?.map (Heading.tree d)).toList).toList = (heading?.map Heading.chars).getD [] := by
    cases heading? with
    | none => rfl
    | some h => simp [Heading.tree, Heading.chars, spell, spellAll, h.line.toList_spellAll]
  rw [tree, spell, spellAll_append, String.toList_append, above, below]
  rfl

theorem Heading.newline_notMem (h : Heading) : '\n' ∉ h.chars := by
  simp [chars, h.line.newline_notMem]

theorem Page.newline_notMem_last (p : Page) : '\n' ∉ p.last := by
  rw [last]
  cases p.heading? with
  | none => simp
  | some h => exact h.newline_notMem

/-- A line break at the end of a page is the second one there. -/
theorem Page.ends (p : Page) (start : String) (ended : (p.tree d).spell = start ++ "\n") : ∃ more, start = more ++ "\n" := by
  have whole : terminated (p.entries.flatMap Entry.lines) ++ p.last = start.toList ++ ['\n'] := by
    rw [← p.toList_spell d, ended, String.toList_append]
    rfl
  have silent : p.last = [] := by
    rcases List.eq_nil_or_concat p.last with none | ⟨before, c, cut⟩
    · exact none
    · rw [cut, List.concat_eq_append, ← List.append_assoc] at whole
      have newline : c = '\n' := by simpa using (List.append_inj' whole rfl).2
      exact absurd (by simp [cut, newline]) p.newline_notMem_last
  rcases List.eq_nil_or_concat p.entries with none | ⟨before, e, cut⟩
  · rw [none, silent] at whole
    exact absurd whole (by simp)
  · obtain ⟨inner, line, tail⟩ := e.exists_lines_eq_concat
    refine ⟨String.ofList (terminated (before.flatMap Entry.lines ++ inner) ++ line), String.toList_inj.mp ?_⟩
    have twice : start.toList ++ ['\n'] = terminated (before.flatMap Entry.lines ++ inner) ++ line ++ ['\n'] ++ ['\n'] := by
      rw [← whole, cut, silent]
      simp [tail, terminated_append]
    rw [List.append_cancel_right twice, String.toList_append, String.toList_ofList]
    rfl

/-- A page is read back from its rendering, up to merged texts and the lists that its items make up. -/
theorem Page.merged_eq_of_render_eq (p p' : Page) {s t : RoseTree Value} (left : s.merged = (p.tree d).merged)
    (right : t.merged = (p'.tree d).merged) (same : render s = render t) : s.merged = t.merged := by
  have shown {s : RoseTree Value} {p : Page} (merged : s.merged = (p.tree d).merged) :
      render s = dropLineBreak (p.tree d).spell := by
    rw [← render_merged s, merged, render_merged, render_eq, RoseTree.out_eq_spell]
  have cut (p : Page) : Text.lines (p.tree d).spell.toList = p.entries.flatMap Entry.lines ++ [p.last] := by
    have single : ∀ line ∈ p.entries.flatMap Entry.lines, '\n' ∉ line := by
      intro line member
      obtain ⟨e, -, inside⟩ := List.mem_flatMap.mp member
      exact e.newline_notMem line inside
    rw [p.toList_spell d, lines_terminated_append single, lines_of_notMem p.newline_notMem_last]
  have texts : (p.tree d).spell = (p'.tree d).spell :=
    eq_of_dropLineBreak_eq (p.ends d) (p'.ends d) (by rw [← shown left, ← shown right, same])
  obtain ⟨entries, last⟩ := entries_unique ((cut p).symm.trans ((congrArg _ (congrArg _ texts)).trans (cut p')))
  rw [left, right]
  exact Page.merged_tree_eq d entries (Page.heading?_eq last)

/-- Two items in one list, and in two lists with their texts in one piece, before a heading. -/
theorem Page.merged_eq_of_render_eq_lists :
    let d : Defaults := {}
    let line (first second : Word) : Line := ⟨.text first, [.strong second]⟩
    let w : Word := ⟨['a'], by decide, by decide⟩
    let w' : Word := ⟨['b', 'c'], by decide, by decide⟩
    let p : Page := ⟨[.list false [line w w', line w' w], .code w w []], some ⟨1, line w w⟩⟩
    let item (text strong : String) : RoseTree Value :=
      .node (.item (d.style false)) [.node .paragraph [.node (.text text) [], .node .strong [.node (.text strong) []]]]
    let t : RoseTree Value := .node .document
      [.node (.list (d.style false)) [item "a " "bc"], .node (.list (d.style false)) [item "bc " "a"],
        .node (.codeBlock "a" "a\n" true) [],
        .node (.heading 2 false) [.node (.text "a") [], .node (.text " ") [], .node .strong [.node (.text "a") []]]]
    (p.tree d).merged = (p.tree d).merged ∧ t.merged = (p.tree d).merged ∧ render (p.tree d) = render t ∧
      (p.tree d).merged = t.merged := by
  intro d line w w' p item t
  have merged : t.merged = (p.tree d).merged := by decide +kernel
  have same : render (p.tree d) = render t := by decide +kernel
  exact ⟨rfl, merged, same, Page.merged_eq_of_render_eq d p p rfl merged same⟩

end Pages

end Frontmark.Notes
