import ZeroRouter.Retention
import Mathlib.Tactic.Linarith

/-!
# The visible text of a page

The tag stripper cuts only between characters and comes to an end.  Of a page made of text, tags,
comments and closed blocks it leaves the texts, each entity decoded, and the white space collapsed.
The entities are replaced one after another, so one that is written with an escaped ampersand is
decoded twice.
-/

namespace ZeroRouter.Retention

open Option List ByteOffset Substitute Occurrence

/-! ## Searches -/

theorem find_singleton_eq_none {c : Char} {text : List Char} :
    find [c] text = none ↔ c ∉ text := by
  unfold find
  rw [findWhere_eq_none]
  constructor
  · intro never mem
    obtain ⟨before, after, rfl⟩ := append_of_mem mem
    have := never (c :: after) (suffix_append _ _)
    simp at this
  · intro not_mem after is_suffix
    rw [Bool.eq_false_iff, Ne, List.isPrefixOf_iff_prefix]
    rintro ⟨rest, rfl⟩
    exact not_mem (is_suffix.subset (by simp))

theorem find_singleton_append {c : Char} {before : List Char} (not_mem : c ∉ before)
    (after : List Char) : find [c] (before ++ c :: after) = some (byteCount before) := by
  unfold find
  rw [findWhere_eq_some]
  refine ⟨before, c :: after, rfl, rfl, by simp, ?_⟩
  rintro start rest rfl nonempty
  obtain ⟨d, rest, rfl⟩ := exists_cons_of_ne_nil nonempty
  rw [Bool.eq_false_iff, Ne, List.isPrefixOf_iff_prefix, cons_append, cons_prefix_cons]
  rintro ⟨rfl, -⟩
  exact not_mem (by simp)

/-- A text is free of a character, or cut at the first. -/
theorem cases_at (c : Char) (text : List Char) :
    c ∉ text ∨ ∃ before after, text = before ++ c :: after ∧ c ∉ before := by
  by_cases mem : c ∈ text
  · obtain ⟨before, after, is_text, not_mem⟩ := eq_append_cons_of_mem mem
    exact .inr ⟨before, after, is_text, not_mem⟩
  · exact .inl mem

theorem isPrefixCi_iff {needle text : List Char} :
    isPrefixCi needle text = true ↔ needle.map Char.toLower <+: text.map Char.toLower := by
  unfold isPrefixCi
  rw [decide_eq_true_eq, prefix_iff_eq_take, ← map_take, length_map]
  exact eq_comm

/-- What equals an ASCII text but for case is as long. -/
theorem byteCount_of_ci {needle text : List Char} (ascii : ∀ c ∈ needle, IsAscii c)
    (same : text.map Char.toLower = needle.map Char.toLower) : byteCount text = byteCount needle := by
  have text_ascii : ∀ c ∈ text, IsAscii c := by
    intro c mem
    have mem' : c.toLower ∈ needle.map Char.toLower := same ▸ mem_map_of_mem mem
    obtain ⟨d, is_needle, is_lower⟩ := mem_map.mp mem'
    rw [← toLower_isAscii, ← is_lower, toLower_isAscii]
    exact ascii d is_needle
  rw [byteCount_eq_length ascii, byteCount_eq_length text_ascii]
  simpa using congrArg List.length same

/-! ## Nothing is cut inside a character -/

/-- An offset at which a text can be cut, its head not empty. -/
def Cuts (tail : List Char) (len : Nat) : Prop :=
  ∃ head rest, tail = head ++ rest ∧ byteCount head = len ∧ head ≠ []

theorem Cuts.all {c : Char} {tail : List Char} : Cuts (c :: tail) (byteCount (c :: tail)) :=
  ⟨c :: tail, [], by simp, rfl, by simp⟩

/-- A name the stripper knows as a block's. -/
def IsBlock (name : List Char) : Prop := name = "script".toList ∨ name = "style".toList

theorem IsBlock.ascii {name : List Char} (h : IsBlock name) :
    ∀ c ∈ closingTag name, IsAscii c := by
  have all : (closingTag name).all (IsAscii ·) = true := by
    rcases h with rfl | rfl <;> decide
  intro c mem
  exact of_decide_eq_true (all_eq_true.mp all c mem)

theorem IsBlock.lower {name : List Char} (h : IsBlock name) :
    (closingTag name).map Char.toLower = closingTag name ∧ name.map Char.toLower = name := by
  rcases h with rfl | rfl <;> decide

theorem blockLen_cases {name : List Char} (h : IsBlock name) (tail : List Char) :
    blockLen tail name = some none ∨ ∃ len, blockLen tail name = some (some len) ∧ Cuts tail len := by
  cases tail with
  | nil => exact .inl rfl
  | cons c afterLt =>
      by_cases is_lt : c = '<'
      · subst is_lt
        simp only [blockLen]
        cases head : sliceTo afterLt (byteCount name) with
        | none => exact .inl rfl
        | some head =>
            dsimp only
            split
            · unfold sliceTo at head
              obtain ⟨parts, is_cut, -⟩ := map_eq_some_iff.mp head
              unfold sliceFrom
              rw [is_cut, map_some, map_some]
              split
              · refine .inr ⟨_, rfl, ?_⟩
                rw [findAsciiCi_eq h.ascii (by simp [closingTag])]
                cases found : findWhere (isPrefixCi (closingTag name)) ('<' :: afterLt) with
                | none => exact Cuts.all
                | some start =>
                    obtain ⟨before, after, is_text, rfl, closes⟩ := cut_of_findWhere _ found
                    unfold isPrefixCi at closes
                    rw [decide_eq_true_eq] at closes
                    refine ⟨before ++ after.take (closingTag name).length,
                      after.drop (closingTag name).length, ?_, ?_, ?_⟩
                    · rw [is_text, append_assoc, take_append_drop]
                    · rw [byteCount_append, byteCount_of_ci h.ascii closes]
                      rfl
                    · intro nil
                      rw [(append_eq_nil_iff.mp nil).2] at closes
                      simp [closingTag] at closes
              · exact .inl rfl
            · exact .inl rfl
      · unfold blockLen
        split
        · next is_tail => exact absurd (List.cons.inj is_tail).1 is_lt
        · exact .inl rfl

theorem commentLen_cuts {tail : List Char} {len : Nat} (h : commentLen tail = some len) :
    Cuts tail len := by
  unfold commentLen at h
  split at h
  · next opens =>
      obtain ⟨after, is_tail⟩ := List.isPrefixOf_iff_prefix.mp opens
      rw [some.injEq] at h
      subst h
      cases found : find commentClose tail with
      | none =>
          refine ⟨tail, [], by simp, rfl, ?_⟩
          rw [← is_tail]
          simp [commentOpen]
      | some start =>
          obtain ⟨before, rest, rfl, rfl, closes⟩ := cut_of_findWhere _ found
          obtain ⟨rest, rfl⟩ := List.isPrefixOf_iff_prefix.mp closes
          refine ⟨before ++ commentClose, rest, by simp, by simp, by simp [commentClose]⟩
  · cases h

theorem elementLen_cases (tail : List Char) :
    elementLen tail = some none ∨ ∃ len, elementLen tail = some (some len) ∧ Cuts tail len := by
  unfold elementLen
  rcases blockLen_cases (.inl rfl) tail with script | ⟨len, script, cuts⟩
  · rcases blockLen_cases (.inr rfl) tail with style | ⟨len, style, cuts⟩
    · rw [script, style]
      cases comment : commentLen tail with
      | none => exact .inl rfl
      | some len => exact .inr ⟨len, rfl, commentLen_cuts comment⟩
    · rw [script, style]
      exact .inr ⟨len, rfl, cuts⟩
  · rw [script]
    exact .inr ⟨len, rfl, cuts⟩

/-! ## The loop -/

section Loop

variable {before after head rest : List Char} (not_mem : '<' ∉ before) (fuel : Nat)
  (text : List Char)

theorem stripTags_text (not_mem : '<' ∉ rest) :
    stripTags (fuel + 1) text rest = some (text ++ rest) := by
  rw [stripTags, find_singleton_eq_none.mpr not_mem]

include not_mem

theorem stripTags_element (is_tail : '<' :: after = head ++ rest)
    (is_element : elementLen ('<' :: after) = some (some (byteCount head))) :
    stripTags (fuel + 1) text (before ++ '<' :: after) =
      stripTags fuel (text ++ before ++ [' ']) rest := by
  rw [stripTags, find_singleton_append not_mem]
  simp only [sliceTo_append, sliceFrom_append, is_element, bind_eq_bind, bind_some]
  rw [is_tail, sliceFrom_append]
  rfl

theorem stripTags_tag (plain : elementLen ('<' :: (head ++ '>' :: rest)) = some none)
    (closed : '>' ∉ head) :
    stripTags (fuel + 1) text (before ++ '<' :: (head ++ '>' :: rest)) =
      stripTags fuel (text ++ before ++ [' ']) rest := by
  have closes : find ['>'] ('<' :: (head ++ '>' :: rest)) = some (byteCount ('<' :: head)) := by
    rw [← cons_append]
    refine find_singleton_append (fun mem => ?_) rest
    rcases mem_cons.mp mem with is_lt | mem
    · cases is_lt
    · exact closed mem
  have slice : sliceFrom ('<' :: (head ++ '>' :: rest)) (byteCount ('<' :: head) + 1) = some rest := by
    have one_byte : '>'.utf8Size = 1 := by decide
    have := sliceFrom_append ('<' :: (head ++ ['>'])) rest
    simpa [byteCount_cons, Nat.add_assoc, one_byte] using this
  rw [stripTags, find_singleton_append not_mem]
  simp only [sliceTo_append, sliceFrom_append, plain, bind_eq_bind, bind_some, closes,
    slice]

theorem stripTags_unterminated (plain : elementLen ('<' :: after) = some none)
    (unclosed : '>' ∉ after) :
    stripTags (fuel + 1) text (before ++ '<' :: after) = some (text ++ before) := by
  have never : find ['>'] ('<' :: after) = none := by
    rw [find_singleton_eq_none, mem_cons, not_or]
    exact ⟨by decide, unclosed⟩
  rw [stripTags, find_singleton_append not_mem]
  simp only [sliceTo_append, sliceFrom_append, plain, bind_eq_bind, bind_some, never]

end Loop

/-- The loop comes to an end, and never by a panic. -/
theorem stripTags_isSome (fuel : Nat) (text rest : List Char) (enough : rest.length < fuel) :
    (stripTags fuel text rest).isSome = true := by
  induction fuel generalizing text rest with
  | zero => omega
  | succ fuel ih =>
      rcases cases_at '<' rest with not_mem | ⟨before, after, rfl, not_mem⟩
      · rw [stripTags_text fuel text not_mem]
        rfl
      · rw [length_append, length_cons] at enough
        rcases elementLen_cases ('<' :: after) with plain | ⟨len, is_element, cuts⟩
        · rcases cases_at '>' after with unclosed | ⟨head, rest, rfl, closed⟩
          · rw [stripTags_unterminated not_mem fuel text plain unclosed]
            rfl
          · rw [stripTags_tag not_mem fuel text plain closed]
            refine ih _ _ ?_
            rw [length_append, length_cons] at enough
            omega
        · obtain ⟨head, rest, is_tail, rfl, filled⟩ := cuts
          rw [stripTags_element not_mem fuel text is_tail is_element]
          refine ih _ _ ?_
          have lengths := congrArg List.length is_tail
          rw [length_append, length_cons] at lengths
          have := length_pos_iff.mpr filled
          omega

/-- Every document has a normalised text. -/
theorem normalize_isSome (document : List Char) : (normalize document).isSome = true := by
  unfold normalize
  rw [isSome_map]
  exact stripTags_isSome _ _ _ (Nat.lt_succ_self _)

/-! ## Pages made of pieces -/

/-- A text opens a block of a name. -/
def Opens (name text : List Char) : Prop :=
  ∃ opening stop after, text = '<' :: (opening ++ stop :: after) ∧
    opening.map Char.toLower = name ∧ stop ∈ nameEnds

/-- A script or style element, closed by the first end tag of its name. -/
structure Block where
  name : List Char
  isBlock : IsBlock name
  opening : List Char
  spelled : opening.map Char.toLower = name
  stop : Char
  stops : stop ∈ nameEnds
  inner : List Char
  closing : List Char
  closes : closing.map Char.toLower = closingTag name
  first : ¬ closingTag name <:+:
    (('<' :: (opening ++ stop :: (inner ++ closing))).dropLast).map Char.toLower

def Block.text (block : Block) : List Char :=
  '<' :: (block.opening ++ block.stop :: (block.inner ++ block.closing))

/-- A comment, up to the first end of one. -/
structure Comment where
  inner : List Char
  first : ¬ commentClose <:+: (commentOpen ++ inner ++ commentClose).dropLast

def Comment.text (comment : Comment) : List Char := commentOpen ++ comment.inner ++ commentClose

/-- A tag that opens neither a block nor a comment. -/
structure Tag where
  inner : List Char
  closed : '>' ∉ inner
  plain : (∀ name, IsBlock name → ¬ Opens name ('<' :: (inner ++ ['>']))) ∧
    ¬ commentOpen <+: '<' :: (inner ++ ['>'])

def Tag.text (tag : Tag) : List Char := '<' :: (tag.inner ++ ['>'])

inductive Element where
  | block (block : Block)
  | comment (comment : Comment)
  | tag (tag : Tag)

def Element.text : Element → List Char
  | .block whole => whole.text
  | .comment whole => whole.text
  | .tag whole => whole.text

/-- A text without a `<`. -/
abbrev Segment := { text : List Char // '<' ∉ text }

structure Document where
  first : Segment
  rest : List (Element × Segment)

def renderRest (rest : List (Element × Segment)) : List Char :=
  rest.flatMap fun piece => piece.1.text ++ piece.2.val

def Document.render (document : Document) : List Char :=
  document.first.val ++ renderRest document.rest

/-- The texts, a space between each two. -/
def Document.texts (document : Document) : List Char :=
  [' '].intercalate (document.first.val :: document.rest.map (·.2.val))

/-- What a reader sees: every entity decoded, once, and the white space collapsed. -/
def Document.visible (document : Document) : List Char :=
  collapse (substitute entities document.texts)

/-- A search whose pattern stands at the end of a text, and nowhere before, stops there, whatever
    follows the text. -/
theorem first_at_end {lower : Char → Char} {pattern inner closing after : List Char}
    (size : pattern.length = closing.length)
    (first : ¬ pattern <:+: ((inner ++ closing).dropLast).map lower) {start rest : List Char}
    (is_inner : inner = start ++ rest) (nonempty : rest ≠ []) :
    ¬ pattern <+: (rest ++ closing ++ after).map lower := by
  intro is_prefix
  refine first ?_
  have short : pattern.length ≤ ((rest ++ closing).dropLast).length := by
    have := length_pos_iff.mpr nonempty
    simp only [length_dropLast, length_append]
    omega
  have stands : pattern <+: ((rest ++ closing).dropLast).map lower := by
    refine prefix_of_prefix_length_le is_prefix ?_ (by simpa using short)
    exact ((List.dropLast_prefix _).trans (prefix_append _ _)).map lower
  rw [is_inner, append_assoc, dropLast_append_of_ne_nil (by simp [nonempty])]
  rw [map_append]
  exact stands.isInfix.trans (suffix_append _ _).isInfix

/-- What an opened block begins with. -/
theorem Opens.prefix {name text : List Char} (h : Opens name text) :
    '<' :: name <+: text.map Char.toLower := by
  obtain ⟨opening, stop, after, rfl, rfl, -⟩ := h
  rw [map_cons, map_append]
  exact ⟨(stop :: after).map Char.toLower, by simp⟩

theorem blockLen_of_not_opens {name tail : List Char} (h : IsBlock name)
    (closed : ¬ Opens name tail) : blockLen tail name = some none := by
  rcases blockLen_cases h tail with none_here | ⟨len, is_block, -⟩
  · exact none_here
  · refine absurd ?_ closed
    cases tail with
    | nil => cases is_block
    | cons c afterLt =>
        by_cases is_lt : c = '<'
        · subst is_lt
          simp only [blockLen] at is_block
          cases head : sliceTo afterLt (byteCount name) with
          | none =>
              rw [head] at is_block
              cases is_block
          | some opening =>
              rw [head] at is_block
              dsimp only at is_block
              split at is_block
              · next spelled =>
                  unfold sliceTo at head
                  obtain ⟨⟨_, after⟩, is_cut, rfl⟩ := map_eq_some_iff.mp head
                  unfold sliceFrom at is_block
                  rw [is_cut, map_some, map_some] at is_block
                  split at is_block
                  · next stops =>
                      obtain ⟨rfl, -⟩ := cut_eq_some.mp is_cut
                      cases after with
                      | nil => cases stops
                      | cons stop after =>
                          exact ⟨_, stop, after, rfl, spelled.trans h.lower.2,
                            by simpa using stops⟩
                  · cases is_block
              · cases is_block
        · unfold blockLen at is_block
          split at is_block
          · next is_tail => exact absurd (List.cons.inj is_tail).1 is_lt
          · cases is_block

/-- No text opens both. -/
theorem not_opens_both {text : List Char} (style : Opens "style".toList text) :
    ¬ Opens "script".toList text := by
  intro script
  have := prefix_of_prefix_length_le style.prefix script.prefix (by decide)
  revert this
  decide

theorem Block.blockLen_eq (block : Block) (after : List Char) :
    blockLen (block.text ++ after) block.name = some (some (byteCount block.text)) := by
  have is_text : block.text ++ after =
      '<' :: (block.opening ++ block.stop :: (block.inner ++ block.closing ++ after)) := by
    simp [Block.text]
  have same_len : byteCount block.name = byteCount block.opening := by
    refine (byteCount_of_ci (fun c mem => block.isBlock.ascii c (by simp [closingTag, mem])) ?_).symm
    rw [block.spelled, block.isBlock.lower.2]
  have is_whole : block.text ++ after =
      ('<' :: (block.opening ++ block.stop :: block.inner)) ++ (block.closing ++ after) := by
    simp [Block.text]
  have closes : findAsciiCi (block.text ++ after) (closingTag block.name) =
      some (byteCount ('<' :: (block.opening ++ block.stop :: block.inner))) := by
    rw [findAsciiCi_eq block.isBlock.ascii (by simp [closingTag]), findWhere_eq_some]
    refine ⟨_, _, is_whole, rfl, ?_, ?_⟩
    · rw [isPrefixCi_iff, block.isBlock.lower.1, map_append, block.closes]
      exact prefix_append _ _
    · intro start rest is_inner nonempty
      rw [Bool.eq_false_iff, Ne, isPrefixCi_iff, block.isBlock.lower.1, ← append_assoc]
      refine first_at_end ?_ ?_ is_inner nonempty
      · simpa using (congrArg List.length block.closes).symm
      · simpa using block.first
  rw [is_text] at closes ⊢
  simp only [blockLen]
  rw [same_len, sliceTo_append, sliceFrom_append]
  simp only [map_some, head?_cons, any_some, decide_eq_true block.stops, if_true,
    block.spelled, block.isBlock.lower.2, closes, elim_some]
  have close_len := byteCount_of_ci block.isBlock.ascii
    (block.closes.trans block.isBlock.lower.1.symm)
  rw [← close_len, ← byteCount_append]
  simp [Block.text]

theorem Block.elementLen_eq (block : Block) (after : List Char) :
    elementLen (block.text ++ after) = some (some (byteCount block.text)) := by
  have is_block := block.blockLen_eq after
  unfold elementLen
  rcases block.isBlock with is_name | is_name
  · rw [is_name] at is_block
    rw [is_block]
    rfl
  · have opens : Opens "style".toList (block.text ++ after) := by
      refine ⟨block.opening, block.stop, block.inner ++ block.closing ++ after, ?_, ?_,
        block.stops⟩
      · simp [Block.text]
      · rw [block.spelled, is_name]
    rw [is_name] at is_block
    rw [blockLen_of_not_opens (.inl rfl) (not_opens_both opens), is_block]
    rfl

/-- What begins with another character than a name opens no block. -/
theorem not_opens_of_cons {name : List Char} (h : IsBlock name) {c : Char} (other : c ≠ 's')
    (lower : c.toLower = c) (text : List Char) : ¬ Opens name ('<' :: c :: text) := by
  intro opens
  have starts := opens.prefix
  rw [map_cons, map_cons, lower, cons_prefix_cons] at starts
  rcases h with rfl | rfl <;>
    exact other (cons_prefix_cons.mp starts.2).1.symm

theorem Comment.elementLen_eq (comment : Comment) (after : List Char) :
    elementLen (comment.text ++ after) = some (some (byteCount comment.text)) := by
  have is_text : comment.text ++ after =
      '<' :: '!' :: ('-' :: '-' :: (comment.inner ++ commentClose ++ after)) := by
    simp [Comment.text, commentOpen]
  have closed : ∀ name, IsBlock name → ¬ Opens name (comment.text ++ after) := by
    intro name h
    rw [is_text]
    exact not_opens_of_cons h (by decide) (by decide) _
  have closes : find commentClose (comment.text ++ after) =
      some (byteCount (commentOpen ++ comment.inner)) := by
    unfold find
    rw [findWhere_eq_some]
    refine ⟨commentOpen ++ comment.inner, commentClose ++ after, by simp [Comment.text], rfl, ?_,
      ?_⟩
    · rw [List.isPrefixOf_iff_prefix]
      exact prefix_append _ _
    · intro start rest is_inner nonempty
      rw [Bool.eq_false_iff, Ne, List.isPrefixOf_iff_prefix, ← append_assoc]
      have no_end : ¬ commentClose <+: (rest ++ commentClose ++ after).map id :=
        first_at_end rfl (by simpa using comment.first) is_inner nonempty
      simpa using no_end
  unfold elementLen
  rw [blockLen_of_not_opens (.inl rfl) (closed _ (.inl rfl)),
    blockLen_of_not_opens (.inr rfl) (closed _ (.inr rfl))]
  have opens : commentOpen.isPrefixOf (comment.text ++ after) = true := by
    rw [List.isPrefixOf_iff_prefix, Comment.text, append_assoc, append_assoc]
    exact prefix_append _ _
  simp only [commentLen, opens, if_true, closes, elim_some, ← byteCount_append]
  rfl

theorem Tag.elementLen_eq (tag : Tag) (after : List Char) :
    elementLen (tag.text ++ after) = some none := by
  have closed : ∀ name, IsBlock name → ¬ Opens name (tag.text ++ after) := by
    rintro name h ⟨opening, stop, after', is_text, spelled, stops⟩
    have no_close : '>' ∉ opening := by
      intro mem
      have : '>' ∈ name := spelled ▸ mem_map_of_mem (f := Char.toLower) mem
      rcases h with rfl | rfl <;> exact absurd this (by decide)
    rw [Tag.text, cons_append, List.cons.injEq, append_assoc, singleton_append]
      at is_text
    refine tag.plain.1 name h ?_
    rcases append_eq_append_iff.mp is_text.2 with ⟨more, rfl, is_rest⟩ | ⟨more, is_inner, is_rest⟩
    · cases more with
      | nil =>
          rw [nil_append, List.cons.injEq] at is_rest
          exact ⟨tag.inner, '>', [], by simp, by simpa using spelled, by decide⟩
      | cons c more =>
          rw [cons_append, List.cons.injEq] at is_rest
          exact absurd (is_rest.1 ▸ by simp) no_close
    · cases more with
      | nil =>
          rw [append_nil] at is_inner
          exact ⟨opening, '>', [], by rw [is_inner], spelled, by decide⟩
      | cons c more =>
          rw [cons_append, List.cons.injEq] at is_rest
          exact ⟨opening, stop, more ++ ['>'], by rw [is_inner, is_rest.1]; simp, spelled, stops⟩
  have no_comment : commentOpen.isPrefixOf (tag.text ++ after) = false := by
    rw [Bool.eq_false_iff, Ne, List.isPrefixOf_iff_prefix]
    intro is_prefix
    rcases List.prefix_or_prefix_of_prefix is_prefix (prefix_append tag.text after) with
      opens | inside
    · exact tag.plain.2 opens
    · have : '>' ∈ commentOpen := inside.subset (by simp [Tag.text])
      exact absurd this (by decide)
  unfold elementLen
  rw [blockLen_of_not_opens (.inl rfl) (closed _ (.inl rfl)),
    blockLen_of_not_opens (.inr rfl) (closed _ (.inr rfl))]
  simp only [commentLen, no_comment]
  rfl

/-- An element is left out, and a space left for it. -/
theorem Element.stripTags_eq (element : Element) {before : List Char} (not_mem : '<' ∉ before)
    (fuel : Nat) (text after : List Char) :
    stripTags (fuel + 1) text (before ++ (element.text ++ after)) =
      stripTags fuel (text ++ before ++ [' ']) after := by
  cases element with
  | block whole => exact stripTags_element not_mem fuel text rfl (whole.elementLen_eq after)
  | comment whole => exact stripTags_element not_mem fuel text rfl (whole.elementLen_eq after)
  | tag whole =>
      have is_text : whole.text ++ after = '<' :: (whole.inner ++ '>' :: after) := by
        simp [Tag.text]
      have plain := whole.elementLen_eq after
      simp only [Element.text]
      rw [is_text] at plain ⊢
      exact stripTags_tag not_mem fuel text plain whole.closed

theorem stripTags_render (fuel : Nat) (text : List Char) (first : Segment)
    (rest : List (Element × Segment)) (enough : rest.length < fuel) :
    stripTags fuel text (first.val ++ renderRest rest) =
      some (text ++ [' '].intercalate (first.val :: rest.map (·.2.val))) := by
  induction rest generalizing fuel text first with
  | nil =>
      obtain ⟨fuel, rfl⟩ : ∃ more, fuel = more + 1 := ⟨fuel - 1, by simp at enough; omega⟩
      rw [renderRest, flatMap_nil, append_nil, stripTags_text fuel text first.property]
      simp
  | cons piece rest ih =>
      obtain ⟨fuel, rfl⟩ : ∃ more, fuel = more + 1 := ⟨fuel - 1, by simp at enough; omega⟩
      have is_render : renderRest (piece :: rest) =
          piece.1.text ++ (piece.2.val ++ renderRest rest) := by
        simp [renderRest]
      rw [is_render, piece.1.stripTags_eq first.property,
        ih fuel _ piece.2 (by simpa using enough)]
      simp [intercalate_cons_cons]

theorem Element.text_ne_nil (element : Element) : element.text ≠ [] := by
  cases element with
  | block whole => exact cons_ne_nil _ _
  | comment whole => simp [Element.text, Comment.text, commentOpen]
  | tag whole => exact cons_ne_nil _ _

theorem length_le_renderRest (rest : List (Element × Segment)) :
    rest.length ≤ (renderRest rest).length := by
  induction rest with
  | nil => simp
  | cons piece rest ih =>
      have filled := length_pos_iff.mpr piece.1.text_ne_nil
      have is_render : renderRest (piece :: rest) =
          piece.1.text ++ (piece.2.val ++ renderRest rest) := by
        simp [renderRest]
      rw [is_render]
      simp only [length_cons, length_append]
      omega

/-- Of a page made of pieces, what is left is its texts. -/
theorem normalize_render (document : Document) :
    normalize document.render = some (collapse (decodeEntities document.texts)) := by
  unfold normalize
  have enough : document.rest.length < document.render.length + 1 := by
    have := length_le_renderRest document.rest
    unfold Document.render
    rw [length_append]
    omega
  have stripped : stripTags (document.render.length + 1) [] document.render =
      some ([] ++ document.texts) :=
    stripTags_render _ [] document.first document.rest enough
  rw [stripped]
  rfl

/-! ## Entities -/

def escape : Rule Char := ⟨"&amp;".toList, ['&']⟩

def spaceEntity : Rule Char := ⟨"&nbsp;".toList, [' ']⟩

/-- The entities replaced after the ampersand's. -/
def laterEntities : List (Rule Char) :=
  [⟨"&lt;".toList, ['<']⟩, ⟨"&gt;".toList, ['>']⟩, ⟨"&quot;".toList, ['"']⟩,
    ⟨"&#39;".toList, ['\'']⟩, ⟨"&#x27;".toList, ['\'']⟩]

theorem entities_eq : entities = [spaceEntity] ++ [escape] ++ laterEntities := rfl

theorem entities_escape : Escapes escape laterEntities '&' [spaceEntity] where
  marked := by
    unfold Marked
    decide
  writes := rfl
  fresh := fresh_of_heads (by decide)
  markless := by decide
  apart := by decide

/-- The replacements one after another are two passes: the later entities are decoded in what the
    first two left. -/
theorem decodeEntities_eq (text : List Char) :
    decodeEntities text =
      substitute laterEntities (substitute ([spaceEntity] ++ [escape]) text) := by
  have first_two : substitute [escape] (substitute [spaceEntity] text) =
      substitute ([spaceEntity] ++ [escape]) text := by
    have marked : Marked '&' [spaceEntity] := by
      unfold Marked
      decide
    have marked' : Marked '&' [escape] := by
      unfold Marked
      decide
    exact substitute_substitute marked marked' (fresh_of_heads (by decide)) (by decide) text
  have later : Marked '&' laterEntities := by
    unfold Marked
    decide
  unfold decodeEntities
  rw [entities_eq, List.foldl_append, List.foldl_append]
  rw [foldl_substitute later (fresh_of_heads (by decide)) (by decide), ← first_two]
  rfl

/-- A text has an entity whose ampersand is escaped. -/
def DoublyEncoded (text : List Char) : Prop := Doubled escape laterEntities text

/-- A reader sees what the replacements leave exactly where no ampersand of an entity is escaped. -/
theorem collapse_decodeEntities_iff (text : List Char) :
    collapse (decodeEntities text) = collapse (substitute entities text) ↔
      ¬ DoublyEncoded text := by
  rw [decodeEntities_eq, entities_eq]
  rcases entities_escape.substitute_later (!isWhiteSpace ·) (by decide) text with
    ⟨single, same⟩ | ⟨doubled, fewer⟩
  · exact iff_of_true (by rw [same]) single
  · refine iff_of_false (fun same => ?_) (not_not_intro doubled)
    have kept := congrArg (List.filter (!isWhiteSpace ·)) same
    unfold collapse at kept
    rw [filter_spaced (by decide), filter_spaced (by decide)] at kept
    have lengths := congrArg List.length kept
    rw [← List.countP_eq_length_filter, ← List.countP_eq_length_filter] at lengths
    omega

/-- A page made of pieces comes to what a reader sees exactly where no entity is doubly encoded. -/
theorem normalize_visible_iff (document : Document) :
    normalize document.render = some document.visible ↔ ¬ DoublyEncoded document.texts := by
  rw [normalize_render, Option.some.injEq]
  exact collapse_decodeEntities_iff document.texts

end ZeroRouter.Retention
