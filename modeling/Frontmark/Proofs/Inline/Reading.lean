import Frontmark.Proofs.Inline.Pairing
import Frontmark.Proofs.Inline.Prose
import Frontmark.Proofs.Text.Escapes

/-! What is read of a line before its delimiters are paired.

`Reads` says what has become of a state when a part of the text has been read. There is one statement for each part of
a line. -/

set_option autoImplicit false

namespace Frontmark.Inline

open Frontmark.Markup (RoseTree Value)
open Frontmark.Text

variable {ctx : Context} {s s' s'' : State} {text rest : List Char}

namespace State

/-- Steps lead from one state to another, and each of them reads something. -/
def Leads (ctx : Context) (s s' : State) : Prop :=
  ∃ n, n + s'.rest.length ≤ s.rest.length ∧ ∀ m, run ctx (n + m) s = run ctx m s'

theorem Leads.refl : Leads ctx s s :=
  ⟨0, by simp, fun m => by rw [Nat.zero_add]⟩

theorem Leads.trans (first : Leads ctx s s') (second : Leads ctx s' s'') : Leads ctx s s'' := by
  obtain ⟨n, short, runs⟩ := first
  obtain ⟨k, short', runs'⟩ := second
  exact ⟨n + k, by omega, fun m => by rw [Nat.add_assoc, runs, runs']⟩

theorem Leads.of_step (stepped : s.step ctx = some s') (shorter : s'.rest.length < s.rest.length) : Leads ctx s s' :=
  ⟨1, by omega, fun m => by rw [Nat.add_comm, run, stepped]⟩

theorem Leads.run_eq (leads : Leads ctx s s') (ended : s'.rest = []) : run ctx s.rest.length s = s' := by
  obtain ⟨n, short, runs⟩ := leads
  obtain ⟨m, whole⟩ := Nat.exists_eq_add_of_le (Nat.le_of_add_right_le short)
  rw [whole, runs]
  cases m with
  | zero => rfl
  | succ m => rw [run, step, ended]

/-- The state from which `text` has been read, `rest` being left. -/
def past (s : State) (text rest : List Char) : State :=
  { s with before := text.reverse ++ s.before, position := s.position + text.length, rest }

@[simp] theorem past_rest : (s.past text rest).rest = rest := rfl

theorem advance_append (text : List Char) (whole : s.rest = text ++ rest) : s.advance text.length = s.past text rest := by
  induction text generalizing s with
  | nil =>
    obtain rfl : rest = s.rest := whole.symm
    rfl
  | cons c text ih =>
    rw [List.length_cons, advance, whole]
    simp only [List.cons_append]
    rw [ih rfl]
    simp [past, Nat.add_comm, Nat.add_left_comm]

theorem advance_one {c : Char} (whole : s.rest = c :: rest) : s.advance 1 = s.past [c] rest :=
  advance_append [c] whole

theorem advanceTo_append (text : List Char) (whole : s.rest = text ++ rest) : s.advanceTo rest = s.past text rest := by
  rw [advanceTo, whole, List.length_append, Nat.add_sub_cancel, advance_append _ whole]

end State

open State

/-- No piece is a hard line break. -/
def Soft (pieces : List Piece) : Prop :=
  ∀ cs, .tree (.node .lineBreak cs) ∉ pieces

/-- `text` has been read, and `pieces` have come of it. -/
structure Reads (ctx : Context) (s : State) (text : List Char) (pieces : List Piece) (s' : State) : Prop where
  leads : Leads ctx s s'
  rest : s.rest = text ++ s'.rest
  before : s'.before = text.reverse ++ s.before
  pieces : s'.pieces = pieces.reverse ++ s.pieces
  soft : Soft s.pieces → Soft s'.pieces
  inBrackets : s'.inBrackets = s.inBrackets
  exhausted : s'.ticks.exhausted = s.ticks.exhausted
  quota : s'.quota = s.quota

namespace Reads

variable {pieces others : List Piece} {more : List Char}

theorem rest_eq (reads : Reads ctx s text pieces s') (whole : s.rest = text ++ rest) : s'.rest = rest :=
  List.append_cancel_left (reads.rest.symm.trans whole)

theorem refl : Reads ctx s [] [] s :=
  ⟨.refl, rfl, rfl, rfl, id, rfl, rfl, rfl⟩

theorem append (first : Reads ctx s text pieces s') (second : Reads ctx s' more others s'') :
    Reads ctx s (text ++ more) (pieces ++ others) s'' where
  leads := first.leads.trans second.leads
  rest := by rw [first.rest, second.rest, List.append_assoc]
  before := by rw [second.before, first.before, List.reverse_append, List.append_assoc]
  pieces := by rw [second.pieces, first.pieces, List.reverse_append, List.append_assoc]
  soft := fun soft => second.soft (first.soft soft)
  inBrackets := second.inBrackets.trans first.inBrackets
  exhausted := second.exhausted.trans first.exhausted
  quota := second.quota.trans first.quota

theorem length_lt {t : List Char} (whole : s.rest = t ++ rest) (some_ : t ≠ []) : rest.length < s.rest.length := by
  rw [whole, List.length_append]
  exact Nat.lt_add_of_pos_left (List.length_pos_iff.mpr some_)

theorem soft_cons {piece : Piece} (other : ∀ cs, piece ≠ .tree (.node .lineBreak cs)) (soft : Soft pieces) :
    Soft (piece :: pieces) := by
  intro cs member
  obtain same | member := List.mem_cons.mp member
  · exact other cs same.symm
  · exact soft cs member

/-- A step that reads some text and puts one piece for it. -/
theorem of_put {piece : Piece} (whole : s.rest = text ++ rest) (some_ : text ≠ [])
    (soft : ∀ cs, piece ≠ .tree (.node .lineBreak cs))
    (stepped : s.step ctx = some ((s.advance text.length).put piece)) :
    ∃ s', Reads ctx s text [piece] s' ∧ s'.noLinks = s.noLinks := by
  rw [advance_append _ whole] at stepped
  exact ⟨_, ⟨.of_step stepped (length_lt whole some_), whole, rfl, rfl, soft_cons soft, rfl, rfl, rfl⟩, rfl⟩

end Reads

section Prose

/-- What comes after a text is a marker, or the end of a line or of all lines. -/
def Stops (rest : List Char) : Prop :=
  ∀ c ∈ rest.head?, c ∈ "\n*\x60[]".toList

theorem takeWhile_append_of_stop {p : Char → Bool} (stop : ∀ c ∈ rest.head?, p c = false) :
    (text ++ rest).takeWhile p = text.takeWhile p := by
  induction text with
  | nil =>
    cases rest with
    | nil => rfl
    | cons c rest => simp [stop c rfl]
  | cons c text ih => simp [List.takeWhile_cons, ih]

variable {o : Options} {c : Char}

theorem IsProse.of_append (prose : IsProse o (text ++ rest)) : IsProse o rest where
  chars := fun c member => prose.chars c (List.mem_append_right _ member)
  dots := fun smart found => prose.dots smart (found.trans List.infix_append_right)
  hyphens := fun smart found => prose.hyphens smart (found.trans List.infix_append_right)
  urls := fun autolink found => prose.urls autolink (found.trans List.infix_append_right)
  hosts := fun autolink found => prose.hosts autolink (found.trans List.infix_append_right)

theorem isSpace_of_isProse (prose : isProse o c = true) (visible : c ≠ ' ') : isSpace c = false := by
  have tab := ne_of_isProse prose (d := '\t') (by decide)
  have newline := ne_of_isProse prose (d := '\n') (by decide)
  have return_ := ne_of_isProse prose (d := '\r') (by decide)
  simp [isSpace, visible, tab, newline, return_]

theorem isSpecial_of_stops {inBrackets : Bool} (stop : Stops rest) :
    ∀ c ∈ rest.head?, isSpecial o inBrackets c = true := by
  intro c first
  have marker : "\n*\x60[]".toList ⊆ "\n_*\"\x60\\&<[]!".toList := by decide
  have found : "\n_*\"\x60\\&<[]!".toList.contains c = true := List.contains_iff_mem.mpr (marker (stop c first))
  simp only [isSpecial, found, Bool.true_or]

/-- A word that stops nowhere inside does not reach over the end of the text. -/
theorem not_starts_of_stops {word : List Char} (stop : Stops rest) (free : ∀ c ∈ word, c ∉ "\n*\x60[]".toList)
    (never : ¬ word <:+: text) : ¬ word <+: text ++ rest := by
  rintro ⟨more, same⟩
  obtain ⟨tail, whole, -⟩ | ⟨tail, whole, after⟩ := List.append_eq_append_iff.mp same
  · exact never ⟨[], tail, whole.symm⟩
  · cases tail with
    | nil => exact never ⟨[], [], by rw [whole]; simp⟩
    | cons c tail =>
      have inside : c ∈ word := whole ▸ List.mem_append_right _ List.mem_cons_self
      exact free c inside (stop c (by rw [after]; rfl))

section Steps

variable (whole : s.rest = c :: rest)

/-- Text up to the first character that could be special is one piece. -/
theorem plain_eq (o : Options) (whole : s.rest = c :: text ++ rest) (prose : IsProse o (c :: text))
    (stop : Stops rest) (soft : Soft s.pieces) (last : rest.head? = some '\n' → (c :: text).getLast? ≠ some ' ') :
    let found := c :: text.takeWhile fun c => !isSpecial o s.inBrackets c
    s.plain o = (s.advance found.length).put (.tree (textTree found)) := by
  intro found
  have cut : c :: text ++ rest = found ++ ((text.dropWhile fun c => !isSpecial o s.inBrackets c) ++ rest) := by
    simp [found, ← List.append_assoc]
  have length : ((s.rest.drop 1).takeWhile fun c => !isSpecial o s.inBrackets c).length + 1 = found.length := by
    rw [whole, List.cons_append, List.drop_one, List.tail_cons,
      takeWhile_append_of_stop fun c first => by simp [isSpecial_of_stops stop c first]]
    rfl
  have next := advance_append _ (whole.trans cut)
  -- the end of the line is near only if the whole text is plain, and that has no space there
  have trimmed : (s.advance found.length).rest.head? = some '\n' → dropSpacesEnd found = found := by
    intro ended
    rw [next] at ended
    cases more : text.dropWhile fun c => !isSpecial o s.inBrackets c with
    | nil =>
      rw [more] at cut ended
      have all : c :: text = found := List.append_cancel_right (cut.trans (by simp))
      rw [← all]
      refine dropSpacesEnd_of_last fun d member => isSpace_of_isProse (prose.chars d (List.mem_of_getLast? member)) ?_
      rintro rfl
      exact last ended member
    | cons d more' =>
      rw [more, past_rest] at ended
      obtain rfl : d = '\n' := Option.some.inj ended
      have member : '\n' ∈ text := (List.dropWhile_sublist _).subset (more ▸ List.mem_cons_self)
      exact absurd rfl (ne_of_isProse (prose.chars '\n' (List.mem_cons_of_mem _ member)) (d := '\n') (by decide))
  rw [plain]
  simp only [length]
  have taken : s.rest.take found.length = found := by rw [whole.trans cut, List.take_left]
  have kept : (if (s.advance found.length).rest.head? = some '\n' then dropSpacesEnd found else found) = found := by
    split
    · exact trimmed ‹_›
    · rfl
  rw [taken, kept]
  split
  · rename_i cs _ pieces
    exact absurd (pieces ▸ List.mem_cons_self) (soft cs)
  · rfl

/-- Characters of prose with steps of their own. -/
def lone : List Char :=
  ".-:!$'\"".toList

include whole

theorem step_plain (prose : isProse ctx.options c = true) (common : c ∉ lone)
    (host : ¬ (c = 'w' ∧ ctx.options.autolink = true)) : s.step ctx = some (s.plain ctx.options) := by
  have other (d : Char) (member : d ∈ special) : c ≠ d := ne_of_isProse prose member
  rw [State.step.eq_def, whole]
  dsimp only
  split
  case h_17 =>
    rw [if_neg (by simpa using host), if_neg]
    rintro delimiter
    simp only [Bool.or_eq_true, Bool.and_eq_true, decide_eq_true_eq] at delimiter
    obtain ⟨rfl, extension⟩ | ⟨⟨rfl, extension⟩, -⟩ := delimiter <;> exact notMem_extended prose (by simp [extended, extension])
  all_goals first | exact absurd rfl (other _ (by decide)) | exact absurd (by decide) common

end Steps

section Lone

theorem step_period (whole : s.rest = '.' :: rest) (single : ctx.options.smart = true → rest.head? ≠ some '.') :
    s.step ctx = some ((s.advance 1).put (.tree (textTree ['.']))) := by
  have dots (smart : ctx.options.smart = true) : ¬ ".".toList ++ ['.'] <+: '.' :: rest := by
    rintro ⟨more, same⟩
    obtain rfl : '.' :: more = rest := (List.cons.inj same).2
    exact single smart rfl
  have two : (ctx.options.smart && "..".toList.isPrefixOf s.rest) = false := by
    rw [whole, Bool.and_eq_false_imp]
    exact fun smart => Bool.eq_false_iff.mpr fun found => dots smart (List.isPrefixOf_iff_prefix.mp found)
  have three : (ctx.options.smart && "...".toList.isPrefixOf s.rest) = false := by
    rw [whole, Bool.and_eq_false_imp]
    refine fun smart => Bool.eq_false_iff.mpr fun found => dots smart ?_
    exact (List.prefix_append ['.', '.'] ['.']).trans (List.isPrefixOf_iff_prefix.mp found)
  have reduced : s.step ctx = some (s.period ctx.options) := by
    cases s
    cases whole
    rfl
  rw [reduced, period, two, three, if_neg Bool.false_ne_true, if_neg Bool.false_ne_true]
  rfl

theorem step_hyphen (whole : s.rest = '-' :: rest) (single : ctx.options.smart = true → rest.head? ≠ some '-') :
    s.step ctx = some ((s.advance 1).put (.tree (textTree ['-']))) := by
  have reduced : s.step ctx = some (s.hyphen ctx.options) := by
    cases s
    cases whole
    rfl
  have short : (ctx.options.smart && decide (2 ≤ (s.rest.takeWhile (· = '-')).length)) = false := by
    rw [Bool.and_eq_false_imp]
    intro smart
    have alone : rest.takeWhile (· = '-') = [] := by
      cases rest with
      | nil => rfl
      | cons d rest => exact List.takeWhile_cons_of_neg (by simpa using single smart)
    rw [whole, List.takeWhile_cons_of_pos (by simp), alone]
    rfl
  rw [reduced, hyphen]
  simp only [short]
  rfl

theorem step_colon (whole : s.rest = ':' :: rest) (other : ctx.options.autolink = true → ¬ "://".toList <+: ':' :: rest) :
    s.step ctx = some ((s.advance 1).put (.tree (textTree [':']))) := by
  have reduced : s.step ctx = some (s.bareLink (if ctx.options.autolink then bareUrl? s.before s.rest else none) ':') := by
    cases s
    cases whole
    rfl
  have none_ : (if ctx.options.autolink then bareUrl? s.before s.rest else none) = none := by
    split
    · rename_i autolink
      rw [whole]
      unfold bareUrl?
      split
      · rename_i host same
        exact absurd ⟨host, same.symm⟩ (other autolink)
      · rfl
    · rfl
  rw [reduced, none_, bareLink, ite_self]
  rfl

theorem step_exclamation (whole : s.rest = '!' :: rest) (other : rest.head? ≠ some '[') :
    s.step ctx = some ((s.advance 1).put (.tree (textTree ['!']))) := by
  have reduced : s.step ctx = some s.exclamation := by
    cases s
    cases whole
    rfl
  rw [reduced, exclamation]
  split
  · rename_i more same
    obtain rfl : '[' :: more = rest := (List.cons.inj (same.symm.trans whole)).2
    exact absurd rfl other
  · rfl

theorem step_dollar (whole : s.rest = '$' :: rest) : s.step ctx = some ((s.advance 1).put (.tree (textTree ['$']))) := by
  cases s
  cases whole
  rfl

/-- Without curly quotes, a quote is text. -/
theorem step_quote {c : Char} (whole : s.rest = c :: rest) (quote : c = '\'' ∨ c = '"')
    (plain : ctx.options.smart = false) : s.step ctx = some ((s.advance 1).put (.tree (textTree [c]))) := by
  have reduced : s.step ctx = some (s.delimiters ctx.options c) := by
    cases s
    cases whole
    obtain rfl | rfl := quote <;> rfl
  have isMark : isQuote c = true := by obtain rfl | rfl := quote <;> rfl
  rw [reduced, delimiters]
  simp [isMark, plain, putText, put]

theorem step_host (whole : s.rest = 'w' :: rest) (autolink : ctx.options.autolink = true)
    (other : ¬ "www.".toList <+: 'w' :: rest) : s.step ctx = some ((s.advance 1).put (.tree (textTree ['w']))) := by
  have none_ : bareHost? s.before s.rest = none := by
    rw [bareHost?, whole, Bool.eq_false_iff.mpr (mt List.isPrefixOf_iff_prefix.mp other), Bool.and_false]
    rfl
  have reduced : ∃ orElse, s.step ctx =
      some (if ctx.options.autolink then s.bareLink (bareHost? s.before s.rest) 'w' else orElse) := by
    cases s
    cases whole
    exact ⟨_, rfl⟩
  obtain ⟨orElse, reduced⟩ := reduced
  rw [reduced, if_pos autolink, bareLink, none_, ite_self]
  rfl

end Lone

/-- What follows a text ends it, and does not make an image of its last character. -/
structure Ends (text rest : List Char) : Prop where
  stops : Stops rest
  line : rest.head? = some '\n' → text.getLast? ≠ some ' '
  image : rest.head? = some '[' → text.getLast? ≠ some '!'

theorem head?_append_ne {word : Char} (stop : Stops rest) (common : word ∉ "\n*\x60[]".toList)
    (single : text.head? ≠ some word) : (text ++ rest).head? ≠ some word := by
  intro first
  cases text with
  | nil => exact common (stop word first)
  | cons c text => exact single first

/-- Each step reads some of a text as it is. -/
theorem step_prose (prose : IsProse ctx.options (c :: text)) (whole : s.rest = c :: text ++ rest) (ends : Ends (c :: text) rest)
    (soft : Soft s.pieces) : ∃ found more, c :: text = found ++ more ∧ found ≠ [] ∧
      s.step ctx = some ((s.advance found.length).put (.tree (textTree found))) := by
  have alone (stepped : s.step ctx = some ((s.advance 1).put (.tree (textTree [c])))) :
      ∃ found more, c :: text = found ++ more ∧ found ≠ [] ∧
        s.step ctx = some ((s.advance found.length).put (.tree (textTree found))) :=
    ⟨[c], text, rfl, by simp, stepped⟩
  have char := prose.chars c List.mem_cons_self
  by_cases common : c ∈ lone
  · refine alone ?_
    -- `simp` would have the characters of the text computed for an equation of `lone`
    rw [show lone = ".-:!$'\"".toList from rfl] at common
    simp only [String.reduceToList, List.mem_cons, List.not_mem_nil, or_false] at common
    obtain rfl | rfl | rfl | rfl | rfl | quote := common
    · refine step_period whole fun smart => head?_append_ne ends.stops (by decide) fun first => ?_
      obtain ⟨more, rfl⟩ := List.head?_eq_some_iff.mp first
      exact prose.dots smart ⟨[], more, rfl⟩
    · refine step_hyphen whole fun smart => head?_append_ne ends.stops (by decide) fun first => ?_
      obtain ⟨more, rfl⟩ := List.head?_eq_some_iff.mp first
      exact prose.hyphens smart ⟨[], more, rfl⟩
    · exact step_colon whole fun autolink => not_starts_of_stops ends.stops (by decide) (prose.urls autolink)
    · refine step_exclamation whole fun first => ?_
      cases text with
      | nil => exact ends.image first rfl
      | cons d text =>
        obtain rfl : d = '[' := Option.some.inj first
        exact ne_of_isProse (prose.chars '[' (by simp)) (d := '[') (by decide) rfl
    · exact step_dollar whole
    · refine step_quote whole quote ?_
      by_contra smart
      rw [Bool.not_eq_false] at smart
      refine notMem_extended char ?_
      obtain rfl | rfl := quote <;> simp [extended, smart]
  · by_cases host : c = 'w' ∧ ctx.options.autolink = true
    · obtain ⟨rfl, autolink⟩ := host
      exact alone (step_host whole autolink (not_starts_of_stops ends.stops (by decide) (prose.hosts autolink)))
    · refine ⟨_, text.dropWhile fun c => !isSpecial ctx.options s.inBrackets c, ?_, ?_,
        (step_plain whole char common host).trans (congrArg some (plain_eq _ whole prose ends.stops soft ends.line))⟩
      · rw [List.cons_append, List.takeWhile_append_dropWhile]
      · simp

theorem Ends.of_append {first : List Char} (ends : Ends (first ++ text) rest) : Ends text rest := by
  have last {c : Char} (other : (first ++ text).getLast? ≠ some c) : text.getLast? ≠ some c := by
    intro trailing
    refine other ?_
    rwa [List.getLast?_append_of_ne_nil _ fun none_ => by simp [none_] at trailing]
  exact ⟨ends.stops, fun newline => last (ends.line newline), fun bracket => last (ends.image bracket)⟩

/-- Text is read as itself, in one piece or several. -/
theorem reads_prose (ctx : Context) (prose : IsProse ctx.options text) (whole : s.rest = text ++ rest) (ends : Ends text rest)
    (soft : Soft s.pieces) :
    ∃ texts s', List.flatten texts = text ∧ Reads ctx s text (texts.map fun text => .tree (textTree text)) s' ∧
      s'.noLinks = s.noLinks := by
  induction length : text.length using Nat.strongRecOn generalizing text s with
  | ind n ih =>
    cases text with
    | nil => exact ⟨[], s, rfl, .refl, rfl⟩
    | cons c text =>
      obtain ⟨found, more, cut, some_, stepped⟩ := step_prose prose whole ends soft
      rw [cut, List.append_assoc] at whole
      rw [cut] at prose ends length
      obtain ⟨s₁, first, links⟩ := Reads.of_put whole some_ (by simp [textTree]) stepped
      have shorter : more.length < n := by
        rw [← length, List.length_append]
        exact Nat.lt_add_of_pos_left (List.length_pos_iff.mpr some_)
      obtain ⟨texts, s₂, flat, others, links'⟩ :=
        ih more.length shorter prose.of_append (first.rest_eq whole) ends.of_append (first.soft soft) rfl
      refine ⟨found :: texts, s₂, by rw [List.flatten_cons, flat, cut], ?_, links'.trans links⟩
      rw [cut]
      exact first.append others

end Prose

section Code

namespace TickSearch

theorem exhausted_note (t : TickSearch) (ticks position : Nat) : (t.note ticks position).exhausted = t.exhausted := by
  rw [note]
  split <;> rfl

theorem scan_append {literal found : List Char} {limit position : Nat} (t : TickSearch) (ticks : '\x60' ∉ literal)
    (after : rest.head? ≠ some '\x60') (steps : literal.length < limit) :
    scan 1 limit position found (literal ++ '\x60' :: rest) t =
      (some (found.reverse ++ literal, rest), t.note 1 (position + literal.length)) := by
  induction literal generalizing limit position found with
  | nil =>
    obtain ⟨limit, rfl⟩ := Nat.exists_eq_add_one_of_ne_zero (Nat.ne_of_gt steps)
    have single : rest.takeWhile (· = '\x60') = [] := by
      cases rest with
      | nil => rfl
      | cons c rest => exact List.takeWhile_cons_of_neg (by simpa using after)
    simp [scan, single]
  | cons c literal ih =>
    obtain ⟨limit, rfl⟩ := Nat.exists_eq_add_one_of_ne_zero (Nat.ne_zero_of_lt steps)
    have other : c ≠ '\x60' := (List.ne_of_not_mem_cons ticks).symm
    rw [List.cons_append, scan, if_neg other, ih (List.not_mem_of_not_mem_cons ticks) (Nat.lt_of_succ_lt_succ steps)]
    simp [Nat.add_assoc, Nat.add_comm 1]

end TickSearch

theorem codeLiteral_eq {literal : List Char} (line : '\n' ∉ literal) (first : literal.head? ≠ some ' ') :
    codeLiteral literal = literal := by
  have same : (literal.map fun c => if c = '\n' then ' ' else c) = literal := by
    refine (List.map_congr_left fun c member => if_neg ?_).trans (List.map_id _)
    rintro rfl
    exact line member
  rw [codeLiteral, same, if_neg (by simp [first])]

theorem closing?_append {literal : List Char} {t : TickSearch} (position : Nat) (fresh : t.exhausted = false)
    (ticks : '\x60' ∉ literal) (after : rest.head? ≠ some '\x60') :
    ∃ t', t'.exhausted = false ∧ t.closing? 1 position (literal ++ '\x60' :: rest) = (some (literal, rest), t') := by
  refine ⟨t.note 1 (position + literal.length), by rw [TickSearch.exhausted_note, fresh], ?_⟩
  have open_ : ¬ (decide (mostTicks < 1) || !t.mayFollow 1 position) = true := by
    simp [mostTicks, TickSearch.mayFollow, fresh]
  have steps : literal.length < (literal ++ '\x60' :: rest).length + 1 := by
    rw [List.length_append]
    omega
  rw [TickSearch.closing?, if_neg open_, TickSearch.scan_append t ticks after steps]
  rfl

theorem reads_code (ctx : Context) {literal : List Char} (fits : (Part.code literal).Fits ctx.options)
    (whole : s.rest = (Part.code literal).chars ++ rest) (after : rest.head? ≠ some '\x60')
    (fresh : s.ticks.exhausted = false) :
    ∃ s', Reads ctx s (Part.code literal).chars [.tree (.node (.code (String.ofList literal) 1) [])] s' := by
  obtain ⟨some_, first, chars⟩ := fits
  have ticks : '\x60' ∉ literal := fun member => absurd (chars _ member) (by decide)
  have line : '\n' ∉ literal := fun member => absurd (chars _ member) (by decide)
  have single : s.rest.takeWhile (· = '\x60') = ['\x60'] := by
    rw [whole]
    obtain ⟨c, literal, rfl⟩ := List.exists_cons_of_ne_nil some_
    have other : c ≠ '\x60' := (List.ne_of_not_mem_cons ticks).symm
    simp [Part.chars, other]
  have opened : s.advance 1 = s.past ['\x60'] (literal ++ '\x60' :: rest) :=
    advance_one (by simp [whole, Part.chars])
  obtain ⟨t, kept, found⟩ := closing?_append (s.position + 1) fresh ticks after
  have stepped : s.step ctx = some s.backticks := by
    cases s
    cases whole
    rfl
  have result : s.backticks =
      { s.past (Part.code literal).chars rest with ticks := t }.put
        (.tree (.node (.code (String.ofList literal) 1) [])) := by
    simp only [State.backticks, single, List.length_singleton, opened, past, found]
    rw [advanceTo_append (literal ++ ['\x60']) (by simp), codeLiteral_eq line first]
    simp [past, Part.chars, putTree, Nat.add_assoc, Nat.add_comm 1]
  exact ⟨_, .of_step (stepped.trans (congrArg some result)) (Reads.length_lt whole nofun), whole, rfl, rfl,
    Reads.soft_cons (by simp), rfl, kept.trans fresh.symm, rfl⟩

end Code

section Stars

variable {o : Options} {inner : Char} {phrase : List Char}

/-- Stars between this side and the inner character belong to that character. -/
structure Edge (o : Options) (inner : Char) (side : List Char) : Prop where
  visible : isBlank inner = false
  other : ∀ c ∈ side.head?, c ≠ '*' ∧ (o.strikethrough = true → c ≠ '~')
  flanks : ∀ c ∈ side.head?, flanks c inner = true

theorem neighbour_of_ne {c : Char} {side : List Char} {through : Bool} (tilde : through = true → c ≠ '~') :
    neighbour through (c :: side) = c := by
  cases through with
  | false => rfl
  | true => simp [neighbour, tilde rfl]

theorem Edge.neighbour {side : List Char} (edge : Edge o inner side) :
    Inline.flanks (neighbour o.strikethrough side) inner = true := by
  cases side with
  | nil =>
    have newline : Inline.neighbour o.strikethrough [] = '\n' := by cases o.strikethrough <;> rfl
    have blank : isBlank '\n' = true := by decide
    simp [newline, Inline.flanks, blank, edge.visible]
  | cons c side =>
    rw [neighbour_of_ne (edge.other c rfl).2]
    exact edge.flanks c rfl

theorem flanking_of_flanks {outer : Char} (between : flanks outer inner = true) :
    leftFlanking outer inner = true ∧ leftFlanking inner outer = false := by
  simp only [flanks, Bool.and_eq_true, Bool.or_eq_true, Bool.not_eq_true'] at between
  obtain ⟨visible, blank | ⟨punctuation, word⟩⟩ := between
  · simp [leftFlanking, visible, blank]
  · simp [leftFlanking, visible, punctuation, word]

/-- A run of stars that can only open something or only close something. -/
theorem reads_stars (ctx : Context) {count : Nat} (some_ : count ≠ 0) (whole : s.rest = List.replicate count '*' ++ rest)
    (after : rest.head? ≠ some '*') (opens : Bool)
    (left : leftFlanking (neighbour ctx.options.strikethrough s.before) (neighbour ctx.options.strikethrough rest) = opens)
    (right : leftFlanking (neighbour ctx.options.strikethrough rest) (neighbour ctx.options.strikethrough s.before) = !opens) :
    ∃ s', Reads ctx s (List.replicate count '*') [.run (starRun count opens (s.position + count))] s' ∧
      s'.noLinks = s.noLinks := by
  have length : (s.rest.takeWhile (· = '*')).length = count := by
    rw [whole, takeWhile_append_of_stop]
    · simp
    · rintro c first
      have other : c ≠ '*' := by
        rintro rfl
        exact after first
      simp [other]
  have stepped : s.step ctx = some (s.delimiters ctx.options '*') := by
    obtain ⟨count, rfl⟩ := Nat.exists_eq_add_one_of_ne_zero some_
    cases s
    cases whole
    rfl
  have drop : s.rest.drop count = rest := by
    rw [whole, List.drop_left' (List.length_replicate)]
  have passed : s.advance count = s.past (List.replicate count '*') rest := by
    have := advance_append (List.replicate count '*') whole
    rwa [List.length_replicate] at this
  refine Reads.of_put whole (by simpa using some_) (by simp) ?_
  have quote : isQuote '*' = false := rfl
  rw [stepped, delimiters]
  simp only [quote, length, Bool.false_eq_true, if_false, Bool.false_and, drop, passed, List.length_replicate]
  simp [canOpen, canClose, rightFlanking, left, right, past, starRun]

theorem IsPhrase.exists_first (isPhrase : IsPhrase o phrase) :
    ∃ c more, phrase = c :: more ∧ isBlank c = false ∧ isProse o c = true := by
  have first := isPhrase.first
  cases phrase with
  | nil => cases first
  | cons c more => exact ⟨c, more, rfl, by simpa using first, isPhrase.chars c List.mem_cons_self⟩

theorem IsPhrase.exists_last (isPhrase : IsPhrase o phrase) :
    ∃ c start, phrase = start ++ [c] ∧ isBlank c = false ∧ isProse o c = true := by
  have last := isPhrase.last
  cases found : phrase.getLast? with
  | none =>
    rw [found] at last
    cases last
  | some c =>
    obtain ⟨start, rfl⟩ := List.getLast?_eq_some_iff.mp found
    exact ⟨c, start, rfl, by simpa using last, isPhrase.chars c (by simp)⟩

theorem ne_tilde_of_isProse {c : Char} (prose : isProse o c = true) (strikethrough : o.strikethrough = true) : c ≠ '~' := by
  rintro rfl
  exact notMem_extended prose (by simp [extended, strikethrough])

theorem stops_stars {count : Nat} (some_ : count ≠ 0) : Stops (List.replicate count '*' ++ rest) := by
  obtain ⟨count, rfl⟩ := Nat.exists_eq_add_one_of_ne_zero some_
  rintro c first
  obtain rfl : '*' = c := Option.some.inj first
  decide

/-- A phrase between stars: a run that can only open, the phrase, and a run that can only close. -/
theorem reads_starred (ctx : Context) {count : Nat} (some_ : count ≠ 0) (isPhrase : IsPhrase ctx.options phrase)
    (whole : s.rest = List.replicate count '*' ++ (phrase ++ (List.replicate count '*' ++ rest)))
    (before : ∀ c ∈ phrase.head?, Edge ctx.options c s.before) (after : ∀ c ∈ phrase.getLast?, Edge ctx.options c rest)
    (soft : Soft s.pieces) :
    ∃ p q texts s', List.flatten texts = phrase ∧
      Reads ctx s (List.replicate count '*' ++ (phrase ++ List.replicate count '*'))
        (.run (starRun count true p) :: (texts.map fun text => .tree (textTree text)) ++
          [.run (starRun count false q)]) s' := by
  obtain ⟨first, more, firstWhole, -, firstProse⟩ := isPhrase.exists_first
  obtain ⟨last, start, lastWhole, -, lastProse⟩ := isPhrase.exists_last
  have opens := flanking_of_flanks (before first (by rw [firstWhole]; rfl)).neighbour
  have closes := flanking_of_flanks (after last (by simp [lastWhole])).neighbour
  have inside : neighbour ctx.options.strikethrough (phrase ++ (List.replicate count '*' ++ rest)) = first := by
    rw [firstWhole, List.cons_append, neighbour_of_ne (ne_tilde_of_isProse firstProse)]
  have next : (phrase ++ (List.replicate count '*' ++ rest)).head? ≠ some '*' := by
    rw [firstWhole]
    exact fun same => ne_of_isProse firstProse (d := '*') (by decide) (Option.some.inj same)
  obtain ⟨s₁, opening, -⟩ := reads_stars ctx some_ whole next true (inside ▸ opens.1) (inside ▸ opens.2)
  have left₁ := opening.rest_eq whole
  have ends : Ends phrase (List.replicate count '*' ++ rest) := by
    obtain ⟨count, rfl⟩ := Nat.exists_eq_add_one_of_ne_zero some_
    exact ⟨stops_stars some_, nofun, nofun⟩
  obtain ⟨texts, s₂, flat, inner, -⟩ := reads_prose ctx isPhrase.toIsProse left₁ ends (opening.soft soft)
  have inside₂ : neighbour ctx.options.strikethrough s₂.before = last := by
    rw [inner.before, lastWhole, List.reverse_append, List.reverse_singleton, List.singleton_append, List.cons_append,
      neighbour_of_ne (ne_tilde_of_isProse lastProse)]
  obtain ⟨s₃, closing, -⟩ := reads_stars ctx some_ (inner.rest_eq left₁)
    (fun same => ((after last (by simp [lastWhole])).other '*' same).1 rfl) false (inside₂ ▸ closes.2) (inside₂ ▸ closes.1)
  refine ⟨s.position + count, s₂.position + count, texts, s₃, flat, ?_⟩
  have whole := (opening.append inner).append closing
  rwa [List.append_assoc] at whole

end Stars

section Links

theorem isUrlChar_ne {c d : Char} (char : isUrlChar c = true) (other : isUrlChar d = false) : c ≠ d := by
  rintro rfl
  rw [char] at other
  cases other

theorem isControl_of_isGap {c : Char} (gap : isGap c = true) : c = ' ' ∨ isControl c = true := by
  simp only [isGap, Bool.or_eq_true, Bool.and_eq_true, decide_eq_true_eq] at gap
  obtain space | ⟨-, low⟩ := gap
  · exact .inl space
  · refine .inr ?_
    have : c.toNat ≤ 13 := low
    simp only [isControl, Bool.or_eq_true, decide_eq_true_eq]
    omega

theorem isGap_of_isUrlChar {c : Char} (char : isUrlChar c = true) : isGap c = false := by
  refine Bool.eq_false_iff.mpr fun gap => ?_
  obtain rfl | control := isControl_of_isGap gap
  · exact absurd char (by decide)
  · simp [isUrlChar, control] at char

theorem isSpace_of_isUrlChar {c : Char} (char : isUrlChar c = true) : isSpace c = false := by
  have space := isUrlChar_ne char (d := ' ') (by decide)
  have tab := isUrlChar_ne char (d := '\t') (by decide)
  have newline := isUrlChar_ne char (d := '\n') (by decide)
  have return_ := isUrlChar_ne char (d := '\r') (by decide)
  simp [isSpace, space, tab, newline, return_]

theorem bareDestination?_append {url found : List Char} (chars : ∀ c ∈ url, isUrlChar c = true) :
    Link.bareDestination? found 0 (url ++ ')' :: rest) = some (found.reverse ++ url, ')' :: rest) := by
  induction url generalizing found with
  | nil =>
    rw [List.nil_append, Link.bareDestination?.eq_def]
    simp
  | cons c url ih =>
    have char := chars c List.mem_cons_self
    have backslash := isUrlChar_ne char (d := '\\') (by decide)
    have opening := isUrlChar_ne char (d := '(') (by decide)
    have closing := isUrlChar_ne char (d := ')') (by decide)
    have control : isControl c = false := by
      simp only [isUrlChar, Bool.and_eq_true, Bool.not_eq_true'] at char
      exact char.1
    rw [List.cons_append, Link.bareDestination?.eq_def]
    simp [backslash, opening, closing, control, isSpace_of_isUrlChar char, ih fun c member => chars c (.tail _ member)]

theorem cleanDestination_eq {url : List Char} (chars : ∀ c ∈ url, isUrlChar c = true) :
    Link.cleanDestination url = String.ofList url := by
  have ampersand : '&' ∉ url := fun member => absurd (chars _ member) (by decide)
  have backslash : '\\' ∉ url := fun member => absurd (chars _ member) (by decide)
  rw [Link.cleanDestination, strip_of_ends, decodeEntities_of_notMem ampersand, dropEscapes_of_notMem backslash]
  · exact fun c first => isSpace_of_isUrlChar (chars c (List.mem_of_head? first))
  · exact fun c last => isSpace_of_isUrlChar (chars c (List.mem_of_getLast? last))

/-- The parentheses after a link that has no title, and what they hold. -/
theorem inlineTarget?_append {url : List Char} (chars : ∀ c ∈ url, isUrlChar c = true) :
    inlineTarget? ('(' :: (url ++ ')' :: rest)) = some (⟨String.ofList url, ""⟩, rest) := by
  have gaps : dropGaps (url ++ ')' :: rest) = url ++ ')' :: rest := by
    cases url with
    | nil => rfl
    | cons c url => exact List.dropWhile_cons_of_neg (by simp [isGap_of_isUrlChar (chars c List.mem_cons_self)])
  have destination : Link.destination? (url ++ ')' :: rest) = some (url, ')' :: rest) := by
    rw [Link.destination?, bareDestination?_append chars]
    · rfl
    · rintro text same
      cases url with
      | nil => cases same
      | cons c url => exact absurd (List.cons.inj same).1 (isUrlChar_ne (chars c List.mem_cons_self) (by decide))
  have closing : dropGaps (')' :: rest) = ')' :: rest := rfl
  simp only [inlineTarget?, gaps, destination, Option.bind_some, closing, if_true]
  rw [cleanDestination_eq chars]
  rfl

theorem cutBracket?_append (texts : List (List Char)) (inner : List Piece) (b : Bracket) (outer : List Piece) :
    cutBracket? inner ((texts.map fun text => Piece.tree (textTree text)).reverse ++ .bracket b :: outer) =
      some ((texts.map fun text => .tree (textTree text)) ++ inner, b, outer) := by
  induction texts using List.reverseRecOn generalizing inner with
  | nil => rfl
  | append_singleton texts text ih =>
    rw [List.map_append, List.map_singleton, List.reverse_append, List.reverse_singleton, List.singleton_append,
      List.cons_append, cutBracket?, ih, List.append_assoc, List.singleton_append]
    exact nofun

theorem reads_link (ctx : Context) {url phrase : List Char} (isPhrase : IsPhrase ctx.options phrase)
    (chars : ∀ c ∈ url, isUrlChar c = true) (whole : s.rest = (Part.link url phrase).chars ++ rest)
    (soft : Soft s.pieces) (outside : s.inBrackets = false) :
    ∃ texts s', List.flatten texts = phrase ∧
      Reads ctx s (Part.link url phrase).chars
        [.tree (.node (.link (String.ofList url) "") (pair (texts.map fun text => .tree (textTree text))))] s' := by
  let target := '(' :: (url ++ ')' :: rest)
  let s₁ : State := { s.past ['['] (phrase ++ ']' :: target) with
    pieces := .bracket ⟨false, phrase ++ ']' :: target, s.position + 1⟩ :: s.pieces
    lastBracket := s.position + 1, noLinks := false, inBrackets := true }
  have open_ : s.rest = '[' :: (phrase ++ ']' :: target) := by simp [whole, Part.chars, target]
  have opened : s.step ctx = some s₁ := by
    have stepped : s.step ctx = some (s.openBracket false) := by
      cases s
      cases open_
      rfl
    rw [stepped, openBracket, if_neg Bool.false_ne_true, advance_one open_]
    rfl
  have ends : Ends phrase (']' :: target) := ⟨by rintro _ ⟨⟩; decide, nofun, nofun⟩
  obtain ⟨texts, s₂, flat, inner, links⟩ := reads_prose (s := s₁) ctx isPhrase.toIsProse rfl ends (Reads.soft_cons nofun soft)
  have close : s₂.rest = ']' :: target := inner.rest_eq rfl
  let s₃ : State := { s₂.past (']' :: '(' :: (url ++ [')'])) rest with
    pieces := .tree (.node (.link (String.ofList url) "") (pair (texts.map fun text => .tree (textTree text)))) :: s.pieces
    noLinks := true, inBrackets := false }
  have closed : s₂.step ctx = some s₃ := by
    have stepped : s₂.step ctx = some (s₂.closeBracket ctx) := by
      cases s₂
      cases close
      rfl
    have cut : cutBracket? [] s₂.pieces = some (texts.map fun text => .tree (textTree text),
        ⟨false, phrase ++ ']' :: target, s.position + 1⟩, s.pieces) := by
      rw [inner.pieces]
      exact (cutBracket?_append texts [] _ _).trans (by rw [List.append_nil])
    have after : inlineTarget? target = some (⟨String.ofList url, ""⟩, rest) := inlineTarget?_append chars
    rw [stepped, closeBracket, advance_one close]
    simp only [past, cut, links, after]
    rw [if_neg (by simp [s₁]), advanceTo_append ('(' :: (url ++ [')'])) (by simp [target])]
    simp [s₃, makeLink, past, Nat.add_assoc, Nat.add_comm 1]
  refine ⟨texts, s₃, flat, ?_, ?_, ?_, rfl, ?_, outside.symm, ?_, ?_⟩
  · refine (Leads.of_step opened ?_).trans (inner.leads.trans (.of_step closed ?_))
    · exact Reads.length_lt (t := ['[']) open_ nofun
    · change rest.length < s₂.rest.length
      exact Reads.length_lt (t := ']' :: '(' :: (url ++ [')'])) (by simp [close, target]) nofun
  · exact whole
  · simp [past, inner.before, s₃, s₁, Part.chars]
  · exact Reads.soft_cons (by simp)
  · exact inner.exhausted
  · exact inner.quota

end Links

theorem reads_break (ctx : Context) (whole : s.rest = '\n' :: rest) (before : s.before.head? ≠ some ' ')
    (after : ∀ c ∈ rest.head?, isSpaceOrTab c = false) :
    ∃ s', Reads ctx s ['\n'] [.tree (.node .softBreak [])] s' ∧ s'.noLinks = s.noLinks := by
  refine Reads.of_put whole nofun (by simp) ?_
  have stepped : s.step ctx = some s.lineBreak := by
    cases s
    cases whole
    rfl
  have spaces : rest.takeWhile isSpaceOrTab = [] := by
    cases rest with
    | nil => rfl
    | cons c rest => exact List.takeWhile_cons_of_neg (by simp [after c rfl])
  have single : ∀ start, s.before ≠ ' ' :: ' ' :: start := by
    rintro start same
    exact before (by rw [same]; rfl)
  rw [stepped, lineBreak, advance_one whole]
  simp [past, putTree, put, spaces, advance, advance_one whole]

end Frontmark.Inline
