import Mathlib.Data.List.Basic
import Mathlib.Data.List.Infix
import Mathlib.Data.List.SplitOn

/-!
# Where a pattern stands in a text

Its occurrences, which may overlap, and the matches of a search from the left, which do not: each
match is found behind the one before it.  One match is one occurrence or several, all of them inside
the first.  The words of a text are what stands between its separators.

The module names no text of any particular program.
-/

namespace Occurrence

open List

variable {α : Type} [DecidableEq α] {text : List α} {c : α} {parts : List (List α)}

/-- The pattern stands at a position. -/
def Occurs (pattern text : List α) (i : Nat) : Prop := pattern <+: text.drop i

instance (pattern text : List α) (i : Nat) : Decidable (Occurs pattern text i) :=
  inferInstanceAs (Decidable (_ <+: _))

/-- The matches, each as the text from it on; some characters of one still to pass over. -/
def matchesFrom (pattern : List α) : Nat → List α → List (List α)
  | _, [] => []
  | skip + 1, _ :: rest => matchesFrom pattern skip rest
  | 0, c :: rest =>
      if pattern.isPrefixOf (c :: rest) then
        (c :: rest) :: matchesFrom pattern (pattern.length - 1) rest
      else matchesFrom pattern 0 rest

def matchesOf (pattern text : List α) : List (List α) := matchesFrom pattern 0 text

theorem matchesFrom_eq (pattern : List α) (skip : Nat) (text : List α) :
    matchesFrom pattern skip text = matchesOf pattern (text.drop skip) := by
  induction skip generalizing text with
  | zero => rfl
  | succ skip ih =>
      cases text with
      | nil => rfl
      | cons c rest => exact ih rest

theorem occurs_drop {pattern : List α} {n i : Nat} :
    Occurs pattern (text.drop n) i ↔ Occurs pattern text (n + i) := by
  unfold Occurs
  rw [drop_drop]

section Matches

variable {pattern : List α} (filled : pattern ≠ [])

include filled

theorem not_occurs_nil (i : Nat) : ¬ Occurs pattern [] i := by
  unfold Occurs
  rw [drop_nil, prefix_nil]
  exact filled

/-- There is no match, or the first match is the first occurrence and the others follow it. -/
theorem matchesOf_cases (text : List α) :
    (matchesOf pattern text = [] ∧ ∀ i, ¬ Occurs pattern text i) ∨
      ∃ i, Occurs pattern text i ∧ (∀ j < i, ¬ Occurs pattern text j) ∧
        matchesOf pattern text =
          text.drop i :: matchesOf pattern (text.drop (i + pattern.length)) := by
  induction text with
  | nil => exact .inl ⟨rfl, not_occurs_nil filled⟩
  | cons c rest ih =>
      by_cases here : Occurs pattern (c :: rest) 0
      · refine .inr ⟨0, here, nofun, ?_⟩
        have leading := List.isPrefixOf_iff_prefix.mpr here
        obtain ⟨size, is_size⟩ : ∃ size, pattern.length = size + 1 :=
          ⟨pattern.length - 1, by have := length_pos_iff.mpr filled; omega⟩
        rw [drop_zero] at leading
        unfold matchesOf
        rw [matchesFrom, if_pos leading, matchesFrom_eq, is_size]
        simp [matchesOf]
      · have not_here : ¬ pattern.isPrefixOf (c :: rest) = true := fun leading =>
          here (List.isPrefixOf_iff_prefix.mp leading)
        have is_rest : matchesOf pattern (c :: rest) = matchesOf pattern rest := by
          unfold matchesOf
          rw [matchesFrom, if_neg not_here]
        rw [is_rest]
        rcases ih with ⟨is_nil, never⟩ | ⟨i, occurs, first, is_matches⟩
        · refine .inl ⟨is_nil, fun i => ?_⟩
          cases i with
          | zero => exact here
          | succ i => exact never i
        · refine .inr ⟨i + 1, occurs, fun j below => ?_, ?_⟩
          · cases j with
            | zero => exact here
            | succ j => exact first j (Nat.lt_of_succ_lt_succ below)
          · rw [is_matches, show i + 1 + pattern.length = (i + pattern.length) + 1 by omega]
            rfl

theorem matchesOf_eq_nil :
    matchesOf pattern text = [] ↔ ∀ i, ¬ Occurs pattern text i := by
  rcases matchesOf_cases filled text with ⟨is_nil, never⟩ | ⟨i, occurs, -, is_matches⟩
  · exact iff_of_true is_nil never
  · exact iff_of_false (by rw [is_matches]; simp) fun never => never i occurs

/-- One match: every occurrence starts inside the first. -/
theorem matchesOf_eq_singleton {found : List α} :
    matchesOf pattern text = [found] ↔
      ∃ i, found = text.drop i ∧ Occurs pattern text i ∧
        ∀ j, Occurs pattern text j → i ≤ j ∧ j < i + pattern.length := by
  have behind : ∀ n, matchesOf pattern (text.drop n) = [] ↔
      ∀ j, Occurs pattern text j → j < n := by
    intro n
    rw [matchesOf_eq_nil filled]
    simp only [occurs_drop]
    constructor
    · intro never j occurs
      by_contra beyond
      refine never (j - n) ?_
      rwa [Nat.add_sub_cancel' (not_lt.mp beyond)]
    · intro before j occurs
      have := before _ occurs
      omega
  rcases matchesOf_cases filled text with ⟨is_nil, never⟩ | ⟨i, occurs, first, is_matches⟩
  · rw [is_nil]
    refine iff_of_false nofun ?_
    rintro ⟨i, -, occurs, -⟩
    exact never i occurs
  · rw [is_matches, List.cons.injEq, behind]
    constructor
    · rintro ⟨rfl, before⟩
      exact ⟨i, rfl, occurs, fun j occurs' =>
        ⟨not_lt.mp fun below => first j below occurs', before j occurs'⟩⟩
    · rintro ⟨k, rfl, occurs', inside⟩
      have same : i = k := by
        refine le_antisymm (not_lt.mp fun below => first k below occurs') (inside i occurs).1
      subst same
      exact ⟨rfl, fun j occurs'' => (inside j occurs'').2⟩

/-- A front in which no match begins does not matter. -/
theorem matchesOf_append {front rest : List α}
    (none_before : ∀ i < front.length, ¬ Occurs pattern (front ++ rest) i) :
    matchesOf pattern (front ++ rest) = matchesOf pattern rest := by
  induction front with
  | nil => rfl
  | cons c front ih =>
      have not_here : ¬ pattern.isPrefixOf (c :: (front ++ rest)) = true := fun leading =>
        none_before 0 (by simp) (List.isPrefixOf_iff_prefix.mp leading)
      rw [cons_append]
      unfold matchesOf
      rw [matchesFrom, if_neg not_here]
      exact ih fun i below => none_before (i + 1) (by simpa using below)

end Matches

/-! ## Words -/

section Words

variable (separates : α → Bool) (space : α)

/-- What stands between the separators, as far as anything does. -/
def words (text : List α) : List (List α) := (text.splitOnP separates).filter (· ≠ [])

/-- The words, one space between each two. -/
def spaced (text : List α) : List α := [space].intercalate (words separates text)

omit [DecidableEq α] in
theorem flatten_splitOnP (text : List α) :
    (text.splitOnP separates).flatten = text.filter (!separates ·) := by
  induction text with
  | nil => rfl
  | cons c rest ih =>
      rw [splitOnP_cons_eq_if_modifyHead]
      cases is_separator : separates c with
      | true => simpa [is_separator] using ih
      | false =>
          obtain ⟨word, more, is_split⟩ :=
            exists_cons_of_ne_nil (splitOnP_ne_nil separates rest)
          rw [is_split] at ih ⊢
          simpa [is_separator] using ih

theorem flatten_words (text : List α) :
    (words separates text).flatten = text.filter (!separates ·) := by
  have kept : ∀ parts : List (List α), (parts.filter (· ≠ [])).flatten = parts.flatten := by
    intro parts
    induction parts with
    | nil => rfl
    | cons part parts ih =>
        cases part with
        | nil => simpa using ih
        | cons c part => simpa using ih
  unfold words
  rw [kept, flatten_splitOnP]

theorem separates_of_mem_words {word : List α} (mem : word ∈ words separates text)
    (mem' : c ∈ word) : separates c = false := by
  have in_text : c ∈ (words separates text).flatten := mem_flatten.mpr ⟨word, mem, mem'⟩
  rw [flatten_words, mem_filter] at in_text
  simpa using in_text.2

variable {separates space}

omit [DecidableEq α] in
theorem mem_intercalate (mem : c ∈ [space].intercalate parts) :
    c = space ∨ ∃ part ∈ parts, c ∈ part := by
  induction parts with
  | nil => cases mem
  | cons part parts ih =>
      cases parts with
      | nil =>
          rw [intercalate_singleton] at mem
          exact .inr ⟨part, mem_cons_self, mem⟩
      | cons part' parts =>
          rw [intercalate_cons_cons, mem_append, mem_append,
            mem_singleton] at mem
          rcases mem with (mem | mem) | mem
          · exact .inr ⟨part, mem_cons_self, mem⟩
          · exact .inl mem
          · exact (ih mem).imp_right fun ⟨other, mem', holds⟩ =>
              ⟨other, mem_cons_of_mem _ mem', holds⟩

/-- The only separator between the words is the space. -/
theorem mem_spaced (mem : c ∈ spaced separates space text) :
    c = space ∨ separates c = false :=
  (mem_intercalate mem).imp_right fun ⟨_, mem', holds⟩ => separates_of_mem_words separates mem' holds

omit [DecidableEq α] in
theorem filter_intercalate (is_space : separates space = true)
    (kept : ∀ part ∈ parts, part.filter (!separates ·) = part) :
    ([space].intercalate parts).filter (!separates ·) = parts.flatten := by
  induction parts with
  | nil => rfl
  | cons part parts ih =>
      have ih := ih fun part' mem => kept part' (mem_cons_of_mem _ mem)
      have own := kept part mem_cons_self
      cases parts with
      | nil => simpa using own
      | cons next parts =>
          rw [intercalate_cons_cons, filter_append, filter_append, ih, own]
          simp [is_space]

/-- Nothing but separators comes or goes. -/
theorem filter_spaced (is_space : separates space = true) (text : List α) :
    (spaced separates space text).filter (!separates ·) = text.filter (!separates ·) := by
  have kept : ∀ word ∈ words separates text, word.filter (!separates ·) = word := by
    intro word mem
    rw [filter_eq_self]
    intro c mem'
    rw [separates_of_mem_words separates mem mem']
    rfl
  exact (filter_intercalate is_space kept).trans (flatten_words separates text)

end Words

/-! ## Parts joined by a separator -/

/-- Parts that hold no first character of the separator can be told from their joint. -/
theorem intercalate_inj {mark : α} {more : List α} {parts' : List (List α)} (filled : parts ≠ [])
    (filled' : parts' ≠ []) (unmarked : ∀ part ∈ parts, mark ∉ part)
    (unmarked' : ∀ part ∈ parts', mark ∉ part)
    (h : (mark :: more).intercalate parts = (mark :: more).intercalate parts') :
    parts = parts' := by
  induction parts generalizing parts' with
  | nil => exact absurd rfl filled
  | cons part parts ih =>
      obtain ⟨part', rest', rfl⟩ := exists_cons_of_ne_nil filled'
      have own := unmarked part mem_cons_self
      have own' := unmarked' part' mem_cons_self
      cases parts with
      | nil =>
          cases rest' with
          | nil => simpa using h
          | cons next' rest' =>
              rw [intercalate_singleton, intercalate_cons_cons] at h
              exact absurd (h ▸ by simp) own
      | cons next parts =>
          cases rest' with
          | nil =>
              rw [intercalate_singleton, intercalate_cons_cons] at h
              exact absurd (h ▸ by simp) own'
          | cons next' rest' =>
              rw [intercalate_cons_cons, intercalate_cons_cons, append_assoc,
                append_assoc, cons_append, cons_append] at h
              have first := congrArg (List.splitOn mark) h
              rw [splitOn_append_cons_self_of_not_mem own,
                splitOn_append_cons_self_of_not_mem own', List.cons.injEq] at first
              obtain ⟨rfl, -⟩ := first
              rw [append_right_inj, List.cons.injEq, append_right_inj] at h
              rw [ih (cons_ne_nil _ _) (cons_ne_nil _ _)
                (fun part mem => unmarked part (mem_cons_of_mem _ mem))
                (fun part mem => unmarked' part (mem_cons_of_mem _ mem)) h.2]

end Occurrence
