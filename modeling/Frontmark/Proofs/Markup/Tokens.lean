import Frontmark.Proofs.Markup.Legible
import Frontmark.Proofs.Markup.Structural

/-! Markers and literals of inline content.

A rendering has no escapes, so only the characters themselves can tell a literal from a marker. Main statement: the
text of clear tokens can be cut into clear tokens in one way only (`Lexed.unique`). -/

set_option autoImplicit false

namespace Frontmark.Markup

/-- What the text of inline content is made of. A link ends with its `closing`, emphasis with as many stars as it
has begun with. -/
inductive Token where
  | star
  | text (literal : String)
  | code (literal : String)
  | opening
  | closing (url : String)

namespace Token

def chars : Token → List Char
  | star => ['*']
  | text literal => literal.toList
  | code literal => '\x60' :: (literal.toList ++ ['\x60'])
  | opening => ['[']
  | closing url => ']' :: '(' :: (url.toList ++ [')'])

def isText : Token → Bool
  | text _ => true
  | _ => false

def Clear : Token → Prop
  | text literal => literal.toList ≠ [] ∧ '\n' ∉ literal.toList ∧ ClearText literal.toList
  | code literal => literal.toList ≠ [] ∧ '\x60' ∉ literal.toList
  | closing url => balanced 0 url.toList
  | star | opening => True

/-- What the first characters of a token tell: a marker, by its own first character, or none. -/
def front : Token → Option Char
  | star => '*'
  | text _ => none
  | code _ => '\x60'
  | opening => '['
  | closing _ => ']'

end Token

mutual

def RoseTree.tokens : RoseTree Value → List Token
  | .node v cs =>
    match v with
    | .text literal => [.text literal]
    | .code literal _ => [.code literal]
    | .emph => .star :: (RoseTree.tokensAll cs ++ [.star])
    | .strong => .star :: .star :: (RoseTree.tokensAll cs ++ [.star, .star])
    | .link url _ => .opening :: (RoseTree.tokensAll cs ++ [.closing url])
    | _ => []

def RoseTree.tokensAll : List (RoseTree Value) → List Token
  | [] => []
  | t :: ts => t.tokens ++ RoseTree.tokensAll ts

end

open RoseTree (tokens tokensAll)

/-- Clear tokens of which no two texts are neighbours, so that no token goes on where another one ends. -/
def Lexed : List Token → Prop
  | [] => True
  | t :: ts => t.Clear ∧ (t.isText → ¬ ts.head?.any Token.isText) ∧ Lexed ts

section Content

variable {clear e s : Bool} {ts : List (RoseTree Value)} {rest : List Token}

theorem Inlines.toList_spellAll (content : Inlines clear e s ts) :
    (RoseTree.spellAll ts).toList = (tokensAll ts).flatMap Token.chars := by
  induction content with
  | nil => rfl
  | text _ _ _ _ _ ih => simp [RoseTree.spellAll, RoseTree.spell, tokensAll, tokens, Token.chars, ih]
  | code _ _ _ _ ih => simp [RoseTree.spellAll, RoseTree.spell, tokensAll, tokens, Token.chars, ih]
  | emph _ _ _ _ inner ih => simp [RoseTree.spellAll, RoseTree.spell, tokensAll, tokens, Token.chars, inner, ih]
  | strong _ _ _ _ inner ih => simp [RoseTree.spellAll, RoseTree.spell, tokensAll, tokens, Token.chars, inner, ih]
  | link _ _ _ _ inner ih => simp [RoseTree.spellAll, RoseTree.spell, tokensAll, tokens, Token.chars, inner, ih]

theorem Inlines.not_isText_head (content : Inlines clear e s ts) (apart : ¬ ts.head?.any RoseTree.isText)
    (after : ¬ rest.head?.any Token.isText) : ¬ (tokensAll ts ++ rest).head?.any Token.isText := by
  cases content with
  | nil => exact after
  | text => simp [RoseTree.isText] at apart
  | _ => simp [tokensAll, tokens, Token.isText]

theorem Inlines.lexed (content : Inlines true e s ts) (after : ¬ rest.head?.any Token.isText) (lexed : Lexed rest) :
    Lexed (tokensAll ts ++ rest) := by
  induction content generalizing rest with
  | nil => exact lexed
  | text some_ line clear apart more ih =>
    exact ⟨⟨mt String.toList_eq_nil_iff.mp some_, line, clear rfl⟩, fun _ => more.not_isText_head apart after,
      ih after lexed⟩
  | code some_ _ clear _ ih => exact ⟨⟨mt String.toList_eq_nil_iff.mp some_, clear rfl⟩, nofun, ih after lexed⟩
  | @emph _ _ cs ts _ _ _ _ inner ih =>
    have whole : Lexed (.star :: (tokensAll cs ++ .star :: (tokensAll ts ++ rest))) :=
      ⟨trivial, nofun, inner nofun ⟨trivial, nofun, ih after lexed⟩⟩
    simpa [tokensAll, tokens] using whole
  | @strong _ _ cs ts _ _ _ _ inner ih =>
    have whole : Lexed (.star :: .star :: (tokensAll cs ++ .star :: .star :: (tokensAll ts ++ rest))) :=
      ⟨trivial, nofun, trivial, nofun, inner nofun ⟨trivial, nofun, trivial, nofun, ih after lexed⟩⟩
    simpa [tokensAll, tokens] using whole
  | @link _ _ url cs ts _ balanced _ _ inner ih =>
    have whole : Lexed (.opening :: (tokensAll cs ++ .closing url :: (tokensAll ts ++ rest))) :=
      ⟨trivial, nofun, inner nofun ⟨balanced rfl, nofun, ih after lexed⟩⟩
    simpa [tokensAll, tokens] using whole

end Content

/-- The marker that a text begins with, if it does; the end of the line counts as one. -/
def front : List Char → Option Char
  | [] => none
  | c :: text => if c ∈ ['*', '\x60', '[', '\n'] ∨ c = ']' ∧ text.head? = some '(' then some c else none

section Cut

variable {t t' : Token} {ts ts' : List Token} {u v r r' : List Char}

theorem front_clearText (clear : ClearText u) (line : '\n' ∉ u) (some_ : u ≠ []) (after : front v ≠ none) :
    front (u ++ v) = none := by
  obtain ⟨star, tick, bracket, closing⟩ := clear
  cases u with
  | nil => contradiction
  | cons c u =>
    refine if_neg ?_
    rintro (marker | ⟨rfl, open_⟩)
    · simp only [List.mem_cons, List.not_mem_nil, or_false] at marker
      obtain rfl | rfl | rfl | rfl := marker <;> simp_all
    · cases u with
      | nil =>
        -- a bracket at the very end would need the parenthesis of what follows, which begins with a marker
        cases v with
        | nil => cases open_
        | cons c v =>
          obtain rfl : c = '(' := by simpa using open_
          simp [front] at after
      | cons d u =>
        obtain rfl : d = '(' := by simpa using open_
        exact closing ⟨[], u, rfl⟩

theorem Token.front_chars (clear : t.Clear) (after : t.isText → Markup.front u ≠ none) :
    Markup.front (t.chars ++ u) = t.front := by
  cases t with
  | text literal => exact front_clearText clear.2.2 clear.2.1 clear.1 (after rfl)
  | _ => rfl

theorem text_unique (left : ClearText u) (right : ClearText v) (line : '\n' ∉ u) (line' : '\n' ∉ v)
    (after : front r ≠ none) (after' : front r' ≠ none) (same : u ++ r = v ++ r') : u = v ∧ r = r' := by
  have nothing {w m r r' : List Char} (clear : ClearText w) (line : '\n' ∉ w) (after : front r ≠ none)
      (after' : front r' ≠ none) (part : m <:+ w) (more : r = m ++ r') : m = [] := by
    by_contra some_
    obtain ⟨star, tick, bracket, closing⟩ := clear
    have clear' : ClearText m := ⟨fun h => star (part.mem h), fun h => tick (part.mem h), fun h => bracket (part.mem h),
      fun h => closing (h.trans part.isInfix)⟩
    rw [more, front_clearText clear' (fun h => line (part.mem h)) some_ after'] at after
    contradiction
  obtain ⟨m, rfl, more⟩ | ⟨m, rfl, more⟩ := List.append_eq_append_iff.mp same
  · obtain rfl := nothing right line' after after' ⟨_, rfl⟩ more
    simpa using more
  · obtain rfl := nothing left line after' after ⟨_, rfl⟩ more
    simpa using more.symm

theorem append_cons_unique {α : Type} {c : α} {u v r r' : List α} (left : c ∉ u) (right : c ∉ v) (same : u ++ c :: r = v ++ c :: r') :
    u = v ∧ r = r' := by
  induction u generalizing v with
  | nil =>
    cases v with
    | nil => exact ⟨rfl, (List.cons.inj same).2⟩
    | cons d v => exact absurd (List.cons.inj same).1 (List.ne_of_not_mem_cons right)
  | cons d u ih =>
    cases v with
    | nil => exact absurd (List.cons.inj same).1.symm (List.ne_of_not_mem_cons left)
    | cons d v =>
      obtain ⟨rfl, rest⟩ := List.cons.inj same
      obtain ⟨rfl, rfl⟩ := ih (List.not_mem_of_not_mem_cons left) (List.not_mem_of_not_mem_cons right) rest
      exact ⟨rfl, rfl⟩

theorem balanced_unique {depth : Nat} (left : balanced depth u) (right : balanced depth v)
    (same : u ++ ')' :: r = v ++ ')' :: r') : u = v ∧ r = r' := by
  induction u generalizing depth v with
  | nil =>
    cases v with
    | nil => simpa using same
    | cons c v =>
      obtain rfl : ')' = c := (List.cons.inj same).1
      simp only [balanced, decide_eq_true_eq] at left
      simp [balanced, left] at right
  | cons c u ih =>
    cases v with
    | nil =>
      obtain rfl : c = ')' := (List.cons.inj same).1
      simp only [balanced, decide_eq_true_eq] at right
      simp [balanced, right] at left
    | cons d v =>
      obtain ⟨rfl, rest⟩ := List.cons.inj same
      have inner : ∃ depth, balanced depth u ∧ balanced depth v := by
        rw [balanced] at left right
        split at left <;> rename_i open_
        · rw [if_pos open_] at right
          exact ⟨_, left, right⟩
        · rw [if_neg open_] at right
          split at left <;> rename_i close
          · rw [if_pos close] at right
            exact ⟨_, (Bool.and_eq_true_iff.mp left).2, (Bool.and_eq_true_iff.mp right).2⟩
          · rw [if_neg close] at right
            exact ⟨_, left, right⟩
      obtain ⟨_, left, right⟩ := inner
      obtain ⟨rfl, rfl⟩ := ih left right rest
      exact ⟨rfl, rfl⟩

theorem Token.unique (left : t.Clear) (right : t'.Clear) (after : t.isText → Markup.front u ≠ none)
    (after' : t'.isText → Markup.front v ≠ none) (same : t.chars ++ u = t'.chars ++ v) : t = t' ∧ u = v := by
  have kind : t.front = t'.front := by rw [← front_chars left after, same, front_chars right after']
  cases t <;> cases t' <;> cases kind
  case star => simpa [chars] using same
  case opening => simpa [chars] using same
  case text literal literal' =>
    have cut := text_unique left.2.2 right.2.2 left.2.1 right.2.1 (after rfl) (after' rfl) same
    exact ⟨congrArg _ (String.toList_inj.mp cut.1), cut.2⟩
  case code literal literal' =>
    simp only [chars, List.cons_append, List.append_assoc, List.cons.injEq, true_and, List.nil_append] at same
    have cut := append_cons_unique left.2 right.2 same
    exact ⟨congrArg _ (String.toList_inj.mp cut.1), cut.2⟩
  case closing url url' =>
    simp only [chars, List.cons_append, List.append_assoc, List.cons.injEq, true_and, List.nil_append] at same
    have cut := balanced_unique left right same
    exact ⟨congrArg _ (String.toList_inj.mp cut.1), cut.2⟩

theorem Lexed.front_ne_none (lexed : Lexed ts) (apart : ¬ ts.head?.any Token.isText) :
    front (ts.flatMap Token.chars ++ '\n' :: r) ≠ none := by
  cases ts with
  | nil => simp [front]
  | cons t ts =>
    have marker : t.isText ≠ true := by simpa using apart
    rw [List.flatMap_cons, List.append_assoc, Token.front_chars lexed.1 fun text => absurd text marker]
    cases t <;> simp_all [Token.front, Token.isText]

/-- A line of clear tokens can be read in one way only. -/
theorem Lexed.unique (left : Lexed ts) (right : Lexed ts')
    (same : ts.flatMap Token.chars ++ '\n' :: r = ts'.flatMap Token.chars ++ '\n' :: r') : ts = ts' ∧ r = r' := by
  have stop {t : Token} {ts : List Token} {r r' : List Char} (lexed : Lexed (t :: ts)) :
      '\n' :: r ≠ (t :: ts).flatMap Token.chars ++ '\n' :: r' := by
    intro same
    have kind := congrArg front same
    rw [List.flatMap_cons, List.append_assoc, Token.front_chars lexed.1 fun text => lexed.2.2.front_ne_none (lexed.2.1 text)]
      at kind
    cases t <;> simp [front, Token.front] at kind
  induction ts generalizing ts' with
  | nil =>
    cases ts' with
    | nil => simpa using same
    | cons t' ts' => exact absurd same (stop right)
  | cons t ts ih =>
    cases ts' with
    | nil => exact absurd same.symm (stop left)
    | cons t' ts' =>
      rw [List.flatMap_cons, List.flatMap_cons, List.append_assoc, List.append_assoc] at same
      obtain ⟨rfl, rest⟩ := Token.unique left.1 right.1 (fun text => left.2.2.front_ne_none (left.2.1 text))
        (fun text => right.2.2.front_ne_none (right.2.1 text)) same
      obtain ⟨rfl, rfl⟩ := ih left.2.2 right.2.2 rest
      exact ⟨rfl, rfl⟩

end Cut

end Frontmark.Markup
