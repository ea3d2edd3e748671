import Frontmark.Proofs.Markup.Emphasis

/-! Which documents a rendering can be told from.

Main statement: clear documents of paragraphs, blocks of code and breaks have different renderings, unless they differ
in nothing but what no text shows. -/

set_option autoImplicit false

namespace Frontmark.Markup

open RoseTree (mapAll spell spellAll tokens tokensAll)

variable {a b : RoseTree Value} {cs : List (RoseTree Value)} {r r' : List Char}

theorem spell_paragraph (content : Inlines true false false cs) (r : List Char) :
    (spell (.node .paragraph cs)).toList ++ r = (tokensAll cs).flatMap Token.chars ++ '\n' :: '\n' :: r := by
  rw [spell, String.toList_append, content.toList_spellAll, List.append_assoc]
  rfl

theorem spell_codeBlock (info literal : String) (fenced : Bool) (r : List Char) :
    (spell (.node (.codeBlock info literal fenced) [])).toList ++ r =
      "\x60\x60\x60 ".toList ++ (info.toList ++ '\n' :: (literal.toList ++ (fenceEnd ++ r))) := by
  rw [spell]
  simp [fenceEnd, String.toList_append]

theorem lexed_tokensAll (content : Inlines true false false cs) : Lexed (tokensAll cs) := by
  have lexed : Lexed (tokensAll cs ++ []) := content.lexed nofun trivial
  rwa [List.append_nil] at lexed

/-- The dashes of a break could be a text. -/
theorem lexed_dashes : Lexed [.text "---"] :=
  ⟨⟨by decide, by decide, by decide, by decide, by decide, by decide⟩, nofun, trivial⟩

/-- A code span is not empty and holds no tick, so a line that begins with two ticks is no content. -/
theorem Lexed.ne_ticks {ts : List Token} (lexed : Lexed ts) :
    ts.flatMap Token.chars ++ '\n' :: r ≠ '\x60' :: '\x60' :: r' := by
  intro same
  cases ts with
  | nil => simp at same
  | cons t ts =>
    obtain ⟨clear, apart, more⟩ := lexed
    rw [List.flatMap_cons, List.append_assoc] at same
    have kind := Token.front_chars clear fun text => more.front_ne_none (r := r) (apart text)
    rw [same] at kind
    cases t with
    | code literal =>
      obtain ⟨some_, tick⟩ := clear
      cases whole : literal.toList with
      | nil => contradiction
      | cons c rest => simp_all [Token.chars]
    | _ => cases kind

theorem eq_of_tokensAll_text {literal : String} (content : Inlines true false false cs)
    (single : tokensAll cs = [.text literal]) : cs = [.node (.text literal) []] := by
  cases content with
  | nil => cases single
  | @text _ _ first ts _ _ _ _ more =>
    cases ts with
    | nil => simpa [tokensAll, tokens] using single
    | cons t ts =>
      refine absurd ?_ (Ends.ne_tokensAll (v := []) (.inl rfl) more)
      simp_all [tokensAll, tokens]
  | _ => simp [tokensAll, tokens] at single

/-- The literal of a block of code goes up to the first line that looks like its end. -/
theorem literal_unique {u v : List Char} (left : Ended u) (right : Ended v)
    (leftClear : ∀ before after, u = before ++ (fenceEnd ++ after) → ¬ Ended before)
    (rightClear : ∀ before after, v = before ++ (fenceEnd ++ after) → ¬ Ended before)
    (same : u ++ (fenceEnd ++ r) = v ++ (fenceEnd ++ r')) : u = v ∧ r = r' := by
  have nothing {u m r r' : List Char} (left : Ended u) (right : Ended (u ++ m))
      (clear : ∀ before after, u ++ m = before ++ (fenceEnd ++ after) → ¬ Ended before)
      (same : fenceEnd ++ r = m ++ (fenceEnd ++ r')) : m = [] := by
    obtain ⟨after, rfl, -⟩ | ⟨after, whole, rest⟩ := List.append_eq_append_iff.mp same
    · exact absurd left (clear u after rfl)
    · by_contra some_
      have last : m.getLast? = some '\n' := by
        obtain nil | last := right
        · exact absurd (List.append_eq_nil_iff.mp nil).2 some_
        · rwa [List.getLast?_append_of_ne_nil _ some_] at last
      -- all of the fence is ruled out, and of its parts only one ends a line: it lacks the second line break
      have part : m = fenceEnd.take m.length := by rw [whole, List.take_left]
      have tail : after = fenceEnd.drop m.length := by rw [whole, List.drop_left]
      have short : m.length ≤ fenceEnd.length := by simp [whole]
      have parts : ∀ k ≤ fenceEnd.length, (fenceEnd.take k).getLast? = some '\n' → k = 4 ∨ k = 5 := by decide
      obtain four | five := parts m.length short (part ▸ last)
      · rw [tail, four] at rest
        cases rest
      · rw [five] at part
        exact clear u [] (by rw [part]; rfl) left
  obtain ⟨m, rfl, more⟩ | ⟨m, rfl, more⟩ := List.append_eq_append_iff.mp same
  · obtain rfl := nothing left right rightClear more
    simpa using more
  · obtain rfl := nothing right left leftClear more
    simpa using more.symm

theorem block_unique (left : IsBlock true a) (right : IsBlock true b)
    (same : (spell a).toList ++ r = (spell b).toList ++ r') : a.shown = b.shown ∧ r = r' := by
  cases left with
  | paragraph _ content more =>
    rw [spell_paragraph content] at same
    cases right with
    | paragraph _ content' more' =>
      rw [spell_paragraph content'] at same
      obtain ⟨tokens, rest⟩ := (lexed_tokensAll content).unique (lexed_tokensAll content') same
      have shown := eq_of_tokensAll_eq content content' tokens
      exact ⟨by simp [RoseTree.shown, RoseTree.map, Value.shown, shown], (List.cons.inj rest).2⟩
    | codeBlock =>
      rw [spell_codeBlock] at same
      exact absurd same (lexed_tokensAll content).ne_ticks
    | thematicBreak =>
      exact absurd (eq_of_tokensAll_text content ((lexed_tokensAll content).unique lexed_dashes same).1) (more rfl)
  | codeBlock ended clear =>
    rw [spell_codeBlock] at same
    cases right with
    | paragraph _ content' more' =>
      rw [spell_paragraph content'] at same
      exact absurd same.symm (lexed_tokensAll content').ne_ticks
    | codeBlock ended' clear' =>
      obtain ⟨line, literal⟩ := clear rfl
      obtain ⟨line', literal'⟩ := clear' rfl
      rw [spell_codeBlock, List.append_cancel_left_eq] at same
      obtain ⟨info, same⟩ := append_cons_unique line line' same
      obtain ⟨text, rest⟩ := literal_unique ended ended' literal literal' same
      simp [RoseTree.shown, RoseTree.map, RoseTree.mapAll, Value.shown, String.toList_inj.mp info,
        String.toList_inj.mp text, rest]
    | thematicBreak =>
      cases same
  | thematicBreak =>
    cases right with
    | paragraph _ content' more' =>
      rw [spell_paragraph content'] at same
      exact absurd (eq_of_tokensAll_text content' ((lexed_tokensAll content').unique lexed_dashes same.symm).1) (more' rfl)
    | codeBlock =>
      rw [spell_codeBlock] at same
      cases same
    | thematicBreak => exact ⟨rfl, List.append_cancel_left same⟩

theorem exists_spell_eq {clear : Bool} (block : IsBlock clear a) : ∃ start, spell a = start ++ "\n\n" := by
  cases block with
  | paragraph => exact ⟨_, rfl⟩
  | @codeBlock info literal =>
    exact ⟨"\x60\x60\x60 " ++ info ++ "\n" ++ literal ++ "\x60\x60\x60", by simp [spell, ← String.toList_inj]⟩
  | thematicBreak => exact ⟨"---", rfl⟩

theorem exists_spellAll_eq {clear : Bool} {blocks : List (RoseTree Value)} (all : ∀ b ∈ blocks, IsBlock clear b)
    (some_ : blocks ≠ []) : ∃ start, spellAll blocks = start ++ "\n\n" := by
  induction blocks with
  | nil => contradiction
  | cons b blocks ih =>
    obtain ⟨first, more⟩ := List.forall_mem_cons.mp all
    rw [spellAll]
    by_cases last : blocks = []
    · obtain ⟨start, whole⟩ := exists_spell_eq first
      exact ⟨start, by rw [last, whole, spellAll, String.append_empty]⟩
    · obtain ⟨start, whole⟩ := ih more last
      exact ⟨b.spell ++ start, by rw [whole, String.append_assoc]⟩

theorem blocks_unique {as bs : List (RoseTree Value)} (left : ∀ a ∈ as, IsBlock true a) (right : ∀ b ∈ bs, IsBlock true b)
    (same : spellAll as = spellAll bs) : mapAll Value.shown as = mapAll Value.shown bs := by
  have ended {b : RoseTree Value} {bs : List (RoseTree Value)} (all : ∀ a ∈ b :: bs, IsBlock true a) :
      spellAll (b :: bs) ≠ "" := by
    obtain ⟨start, whole⟩ := exists_spellAll_eq all (by simp)
    simp [whole]
  induction as generalizing bs with
  | nil =>
    cases bs with
    | nil => rfl
    | cons b bs => exact absurd same.symm (ended right)
  | cons a as ih =>
    cases bs with
    | nil => exact absurd same (ended left)
    | cons b bs =>
      obtain ⟨a_block, left⟩ := List.forall_mem_cons.mp left
      obtain ⟨b_block, right⟩ := List.forall_mem_cons.mp right
      rw [spellAll, spellAll, ← String.toList_inj, String.toList_append, String.toList_append] at same
      obtain ⟨first, rest⟩ := block_unique a_block b_block same
      rw [mapAll_cons, mapAll_cons, first, ih left right (String.toList_inj.mp rest)]

theorem render_document (blocks : List (RoseTree Value)) :
    render (.node .document blocks) = dropLineBreak (spellAll blocks) := by
  rw [render_eq, RoseTree.out_eq_spell, spell]

/-- Clear documents with the same rendering differ in nothing but what no text shows. -/
theorem shown_eq_of_render_eq {s t : RoseTree Value} (left : IsPlain true s) (right : IsPlain true t)
    (same : render s = render t) : s.shown = t.shown := by
  obtain ⟨as, rfl, left⟩ := left
  obtain ⟨bs, rfl, right⟩ := right
  have texts : spellAll as = spellAll bs := by
    rw [render_document, render_document] at same
    -- there is a line break left of the two that end the last block
    have ended {blocks : List (RoseTree Value)} (all : ∀ b ∈ blocks, IsBlock true b) :
        spellAll blocks = "" ∨ ∃ start, spellAll blocks = start ++ "\n" ++ "\n" := by
      by_cases none : blocks = []
      · exact .inl (by rw [none]; rfl)
      · obtain ⟨start, whole⟩ := exists_spellAll_eq all none
        exact .inr ⟨start, by rw [whole, String.append_assoc]; rfl⟩
    obtain leftNone | ⟨a, leftWhole⟩ := ended left <;> obtain rightNone | ⟨b, rightWhole⟩ := ended right
    · rw [leftNone, rightNone]
    · rw [leftNone, rightWhole, dropLineBreak_append] at same
      exact absurd same (by simp [dropLineBreak])
    · rw [leftWhole, rightNone, dropLineBreak_append] at same
      exact absurd same (by simp [dropLineBreak])
    · rw [leftWhole, rightWhole, dropLineBreak_append, dropLineBreak_append] at same
      rw [leftWhole, rightWhole, same]
  rw [RoseTree.shown, RoseTree.shown, RoseTree.map, RoseTree.map, blocks_unique left right texts]

/-- Documents with all of their constructs, in which a code span and a block of code are delimited in different ways. -/
theorem shown_eq_of_render_eq_ticks :
    let made (ticks : Nat) (fenced : Bool) : RoseTree Value := .node .document
      [.node .paragraph [.node (.text "a]") [], .node .emph [.node .strong [.node (.text "b") []], .node (.text "(c") []],
          .node (.link "d(e)" "") [.node (.code "*f*" ticks) []]],
        .node (.codeBlock "g" "h \x60\x60\x60\n\n" fenced) [], .node .thematicBreak []]
    IsPlain true (made 1 true) ∧ IsPlain true (made 2 false) ∧ render (made 1 true) = render (made 2 false) ∧
      (made 1 true).shown = (made 2 false).shown := by
  intro made
  have fence : ∀ before after, "h \x60\x60\x60\n\n".toList = before ++ (fenceEnd ++ after) → ¬ Ended before := by
    intro before after whole
    have places : ∀ k ≤ 7, fenceEnd <+: "h \x60\x60\x60\n\n".toList.drop k → ¬ Ended ("h \x60\x60\x60\n\n".toList.take k) := by
      decide
    have short : before.length ≤ 7 := by
      have length := congrArg List.length whole
      rw [List.length_append] at length
      exact (Nat.le.intro length.symm : before.length ≤ _)
    have found := places before.length short (by rw [whole, List.drop_left]; exact ⟨after, rfl⟩)
    rwa [whole, List.take_left] at found
  have plain (ticks : Nat) (fenced : Bool) : IsPlain true (made ticks fenced) := by
    refine ⟨_, rfl, ?_⟩
    simp only [List.forall_mem_cons]
    refine ⟨.paragraph (by simp) ?_ (by simp), .codeBlock (by decide) fun _ => ⟨by decide, fence⟩, .thematicBreak,
      nofun⟩
    refine .text (by decide) (by decide) (by decide) (by simp [RoseTree.isText]) ?_
    refine .emph (by simp) (by simp [RoseTree.isEmph]) ?_ (.link (by simp) (by decide) ?_ .nil)
    · refine .strong (by decide) (fun _ => ⟨rfl, by simp⟩) ?_ ?_
      · exact .text (by decide) (by decide) (by decide) (by decide) .nil
      · exact .text (by decide) (by decide) (by decide) (by decide) .nil
    · exact .code (by decide) (by decide) (by decide) .nil
  have same : render (made 1 true) = render (made 2 false) := by
    rw [render_document, render_document]
    decide +kernel
  exact ⟨plain 1 true, plain 2 false, same, shown_eq_of_render_eq (plain 1 true) (plain 2 false) same⟩

/-- Pairs of documents that are written the same way. -/
def lookalikes : List (List (RoseTree Value) × List (RoseTree Value)) :=
  let text (literal : String) : RoseTree Value := .node (.text literal) []
  let code (literal : String) : RoseTree Value := .node (.code literal 1) []
  let emph (cs : List (RoseTree Value)) : RoseTree Value := .node .emph cs
  let strong (cs : List (RoseTree Value)) : RoseTree Value := .node .strong cs
  let link (url : String) (cs : List (RoseTree Value)) : RoseTree Value := .node (.link url "") cs
  let line (cs : List (RoseTree Value)) : List (RoseTree Value) := [.node .paragraph cs]
  let block (info literal : String) : RoseTree Value := .node (.codeBlock info literal true) []
  [(line [text "*a*"], line [emph [text "a"]]),
    (line [text "\x60a\x60"], line [code "a"]),
    (line [text "[a", link "c" [text "b"]], line [link "c" [text "a[b"]]),
    (line [link "c" [text "a](b)"]], line [link "b" [text "a"], text "](c)"]),
    (line [code "a\x60b\x60c"], line [code "a", text "b", code "c"]),
    (line [emph [emph [text "a"]]], line [strong [text "a"]]),
    (line [emph [text "a"], emph [text "b"], emph [text "c"]], line [emph [text "a", strong [text "b"], text "c"]]),
    (line [strong [text "a", strong [text "b"], text "c"]], line [strong [text "a"], text "b", strong [text "c"]]),
    (line [strong [emph [text "a"]]], line [emph [strong [text "a"]]]),
    (line [link "a)b" [text "c"]], line [link "a" [text "c"], text "b)"]),
    (line [text "---"], [.node .thematicBreak []]),
    ([block "a\nb" ""], [block "a" "b\n"]),
    ([block "" "\x60\x60\x60\n\n\x60\x60\x60 \n"], [block "" "", block "" ""])]

/-- In each pair a condition of clear documents does not hold: none of them can be left out. -/
theorem lookalikes_unclear : ∀ pair ∈ lookalikes,
    IsPlain false (.node .document pair.1) ∧ IsPlain false (.node .document pair.2) ∧
      render (.node .document pair.1) = render (.node .document pair.2) ∧
      (RoseTree.node .document pair.1).shown ≠ (RoseTree.node .document pair.2).shown := by
  have plain : ∀ pair ∈ lookalikes, (∀ b ∈ pair.1, IsBlock false b) ∧ ∀ b ∈ pair.2, IsBlock false b := by
    simp only [lookalikes, List.forall_mem_cons]
    repeat' first | decide | constructor | nofun
  have same : ∀ pair ∈ lookalikes,
      dropLineBreak (spellAll pair.1) = dropLineBreak (spellAll pair.2) ∧
        (RoseTree.node .document pair.1).shown ≠ (RoseTree.node .document pair.2).shown := by
    decide +kernel
  intro pair member
  rw [render_document, render_document]
  exact ⟨⟨_, rfl, (plain pair member).1⟩, ⟨_, rfl, (plain pair member).2⟩, same pair member⟩

/-- So a rendering does not tell which document it comes from: a text may have the stars of emphasis. -/
theorem plain_not_faithful :
    ¬ ∀ s t : RoseTree Value, IsPlain false s → IsPlain false t → render s = render t → s.shown = t.shown := by
  intro faithful
  obtain ⟨pair, member⟩ := List.exists_mem_of_ne_nil lookalikes nofun
  obtain ⟨left, right, same, other⟩ := lookalikes_unclear pair member
  exact other (faithful _ _ left right same)

end Frontmark.Markup
