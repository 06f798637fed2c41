import Mathlib.Data.List.Basic
import Mathlib.Data.List.TakeWhile

/-!
# Taking marked tokens out of a text

A token is a known prefix and the run of word characters behind it.  Each is replaced, from the left
on, by a marker that starts and ends with a character of no word.  What is left shows no prefix with
a word character behind it, whatever prefixes are taken out before or afterwards.

The module names no text of any particular program.
-/

namespace Redact

open List

variable {α : Type} {text before after : List α} {word : α → Bool} {d c : α}

/-- A prefix stands in a text with a word character behind it. -/
def Exposes (word : α → Bool) (start text : List α) : Prop :=
  ∃ before c after, text = before ++ start ++ c :: after ∧ word c = true

section Exposes

variable {word : α → Bool} {start : List α}

theorem Exposes.append_left (h : Exposes word start text) (more : List α) :
    Exposes word start (more ++ text) := by
  obtain ⟨before, c, after, rfl, is_word⟩ := h
  exact ⟨more ++ before, c, after, by simp, is_word⟩

theorem Exposes.append_right (h : Exposes word start text) (more : List α) :
    Exposes word start (text ++ more) := by
  obtain ⟨before, c, after, rfl, is_word⟩ := h
  exact ⟨before, c, after ++ more, by simp, is_word⟩

theorem Exposes.cons (h : Exposes word start text) (d : α) :
    Exposes word start (d :: text) :=
  h.append_left [d]

theorem Exposes.of_prefix {kept : List α} (h : Exposes word start kept) (leading : kept <+: text) :
    Exposes word start text := by
  obtain ⟨more, rfl⟩ := leading
  exact h.append_right more

theorem Exposes.length_lt (h : Exposes word start text) :
    start.length < text.length := by
  obtain ⟨before, c, after, rfl, -⟩ := h
  simp only [length_append, length_cons]
  omega

theorem not_exposes_nil : ¬ Exposes word start [] := fun h => by
  simpa using h.length_lt

theorem not_exposes_self : ¬ Exposes word start start := fun h => Nat.lt_irrefl _ h.length_lt

/-- What a text shows starts at its first character or behind it. -/
theorem exposes_cons :
    Exposes word start (d :: text) ↔
      (∃ c after, d :: text = start ++ c :: after ∧ word c = true) ∨ Exposes word start text := by
  constructor
  · rintro ⟨before, c, after, is_text, is_word⟩
    cases before with
    | nil => exact .inl ⟨c, after, is_text, is_word⟩
    | cons b before =>
        rw [cons_append, cons_append, List.cons.injEq] at is_text
        exact .inr ⟨before, c, after, is_text.2, is_word⟩
  · rintro (⟨c, after, is_text, is_word⟩ | h)
    · exact ⟨[], c, after, is_text, is_word⟩
    · exact h.cons d

/-- A prefix of word characters does not reach across a character of no word. -/
theorem exposes_append_cons (words : ∀ c ∈ start, word c = true) (apart : word d = false) :
    Exposes word start (before ++ d :: after) ↔
      Exposes word start before ∨ Exposes word start after := by
  constructor
  · rintro ⟨lead, c, rest, is_text, is_word⟩
    have run : ∀ e ∈ start ++ [c], word e = true := by
      intro e mem
      rcases mem_append.mp mem with mem | mem
      · exact words e mem
      · rw [mem_singleton.mp mem]
        exact is_word
    have is_text' : before ++ d :: after = (lead ++ (start ++ [c])) ++ rest := by
      rw [is_text]
      simp
    rcases append_eq_append_iff.mp is_text' with ⟨mid, is_lead, is_after⟩ | ⟨mid, is_before, -⟩
    · cases mid with
      | nil =>
          rw [append_nil] at is_lead
          exact .inl ⟨lead, c, [], by rw [← is_lead]; simp, is_word⟩
      | cons e mid =>
          -- the character of no word stands before the run or in it
          rw [cons_append, List.cons.injEq] at is_after
          obtain ⟨rfl, rfl⟩ := is_after
          rcases append_eq_append_iff.mp is_lead with ⟨gap, -, is_run⟩ | ⟨gap, is_lead, is_gap⟩
          · exact absurd (run d (is_run ▸ by simp)) (by rw [apart]; simp)
          · cases gap with
            | nil =>
                rw [nil_append] at is_gap
                exact absurd (run d (is_gap ▸ mem_cons_self)) (by rw [apart]; simp)
            | cons e gap =>
                rw [cons_append, List.cons.injEq] at is_gap
                obtain ⟨rfl, rfl⟩ := is_gap
                exact .inr ⟨gap, c, rest, by simp, is_word⟩
    · exact .inl ⟨lead, c, mid, by rw [is_before]; simp, is_word⟩
  · rintro (h | h)
    · exact h.append_right _
    · exact (h.cons d).append_left before

/-- Behind a text that shows nothing, what starts with a word character and shares none with the
    prefix shows it only where the text ends with it. -/
theorem exposes_append_iff {kept tail : List α} (words : word d = true) (filled : start ≠ [])
    (apart : ∀ c ∈ start, c ∉ d :: tail) (clean : ¬ Exposes word start kept) :
    Exposes word start (kept ++ d :: tail) ↔ start <:+ kept := by
  constructor
  · rintro ⟨lead, c, rest, is_text, is_word⟩
    rw [append_assoc] at is_text
    rcases append_eq_append_iff.mp is_text with ⟨mid, -, is_tail⟩ | ⟨mid, rfl, is_mid⟩
    · -- the prefix would stand in what comes behind
      obtain ⟨e, es, rfl⟩ := exists_cons_of_ne_nil filled
      exact absurd (is_tail ▸ by simp) (apart e mem_cons_self)
    · rcases append_eq_append_iff.mp is_mid with ⟨gap, rfl, is_rest⟩ | ⟨gap, is_start, is_gap⟩
      · cases gap with
        | nil =>
            rw [append_nil]
            exact suffix_append lead start
        | cons e gap =>
            rw [cons_append, List.cons.injEq] at is_rest
            obtain ⟨rfl, -⟩ := is_rest
            exact absurd ⟨lead, c, gap, by simp, is_word⟩ clean
      · cases gap with
        | nil =>
            rw [append_nil] at is_start
            rw [is_start]
            exact suffix_append lead mid
        | cons e gap =>
            rw [cons_append, List.cons.injEq] at is_gap
            obtain ⟨rfl, -⟩ := is_gap
            exact absurd mem_cons_self (apart d (is_start ▸ by simp))
  · rintro ⟨lead, rfl⟩
    exact ⟨lead, d, tail, rfl, words⟩

end Exposes

/-! ## One prefix -/

/-- A text starts with no word character. -/
def Ends (word : α → Bool) (text : List α) : Prop := ∀ c ∈ text.head?, word c = false

theorem ends_nil : Ends word ([] : List α) := by simp [Ends]

@[simp] theorem ends_cons :
    Ends word (c :: text) ↔ word c = false := by
  simp [Ends]

theorem ends_dropWhile (word : α → Bool) (text : List α) : Ends word (text.dropWhile word) := by
  induction text with
  | nil => exact ends_nil
  | cons c text ih =>
      by_cases is_word : word c = true
      · rw [dropWhile_cons_of_pos is_word]
        exact ih
      · rw [dropWhile_cons_of_neg is_word, ends_cons]
        simpa using is_word

theorem takeWhile_of_ends (h : Ends word text) :
    text.takeWhile word = [] := by
  cases text with
  | nil => rfl
  | cons c text => exact takeWhile_cons_of_neg (by simpa using h)

theorem dropWhile_of_ends (h : Ends word text) :
    text.dropWhile word = text := by
  cases text with
  | nil => rfl
  | cons c text => exact dropWhile_cons_of_neg (by simpa using h)

/-- Which characters make a word, and the marker that takes a token's place. -/
structure Scheme (α : Type) where
  word : α → Bool
  opening : α
  body : List α
  closing : α
  opening_apart : word opening = false
  closing_apart : word closing = false

def Scheme.marker (scheme : Scheme α) : List α :=
  scheme.opening :: (scheme.body ++ [scheme.closing])

/-- A prefix: word characters, none of which the marker has. -/
structure Credential (scheme : Scheme α) where
  start : List α
  filled : start ≠ []
  words : ∀ c ∈ start, scheme.word c = true
  apart : ∀ c ∈ start, c ∉ scheme.marker

section Credential

variable {scheme : Scheme α} (q : Credential scheme)

theorem Credential.length_pos : 0 < q.start.length := length_pos_iff.mpr q.filled

theorem Credential.not_mem_of_apart (h : scheme.word c = false) : c ∉ q.start := by
  intro mem
  rw [q.words c mem] at h
  cases h

theorem ends_marker_append (text : List α) : Ends scheme.word (scheme.marker ++ text) :=
  ends_cons.mpr scheme.opening_apart

/-- Words before a character of no word are all there is of a run. -/
theorem eq_nil_of_ends {run more : List α} (words : ∀ c ∈ run, scheme.word c = true)
    (h : Ends scheme.word text) (is_text : text = run ++ more) : run = [] := by
  cases run with
  | nil => rfl
  | cons c run =>
      rw [is_text, cons_append, ends_cons, words c mem_cons_self] at h
      cases h

theorem exposes_append_of_ends (ends : Ends scheme.word after) :
    Exposes scheme.word q.start (before ++ after) ↔
      Exposes scheme.word q.start before ∨ Exposes scheme.word q.start after := by
  cases after with
  | nil => simp [not_exposes_nil]
  | cons c after =>
      rw [ends_cons] at ends
      have behind : Exposes scheme.word q.start ([] ++ c :: after) ↔ _ :=
        exposes_append_cons q.words ends
      rw [nil_append, or_iff_right not_exposes_nil] at behind
      rw [exposes_append_cons q.words ends, behind]

/-- A marker shows nothing. -/
theorem exposes_marker_append :
    Exposes scheme.word q.start (scheme.marker ++ text) ↔ Exposes scheme.word q.start text := by
  refine ⟨fun h => ?_, fun h => h.append_left _⟩
  have no_body : ¬ Exposes scheme.word q.start scheme.body := by
    rintro ⟨before, c, after, is_body, -⟩
    obtain ⟨d, start, is_start⟩ := exists_cons_of_ne_nil q.filled
    refine q.apart d (by rw [is_start]; exact mem_cons_self) ?_
    unfold Scheme.marker
    rw [is_body, is_start]
    simp
  have is_text : scheme.marker ++ text =
      [] ++ scheme.opening :: (scheme.body ++ scheme.closing :: text) := by
    simp [Scheme.marker]
  rw [is_text, exposes_append_cons q.words scheme.opening_apart,
    exposes_append_cons q.words scheme.closing_apart] at h
  exact (h.resolve_left not_exposes_nil).resolve_left no_body

end Credential

section Redact

variable [DecidableEq α] {scheme : Scheme α} (p q : Credential scheme)

/-- Every token with a prefix, from the left on, under the marker.  A prefix with no word character
    behind it is no token. -/
def redact : List α → List α
  | [] => []
  | c :: rest =>
      if p.start.isPrefixOf (c :: rest) then
        if ((c :: rest).drop p.start.length).takeWhile scheme.word = [] then
          p.start ++ redact ((c :: rest).drop p.start.length)
        else
          scheme.marker ++ redact (((c :: rest).drop p.start.length).dropWhile scheme.word)
      else c :: redact rest
  termination_by text => text.length
  decreasing_by
  · have := p.length_pos
    rw [List.length_drop, List.length_cons]
    omega
  · have := p.length_pos
    have shorter :
        (((c :: rest).drop p.start.length).dropWhile scheme.word).length ≤
          ((c :: rest).drop p.start.length).length :=
      (List.dropWhile_suffix _).length_le
    rw [List.length_drop, List.length_cons] at shorter
    rw [List.length_cons]
    omega
  · simp

@[simp] theorem redact_nil : redact p [] = [] := by rw [redact]

theorem redact_skip {rest : List α} (h : ¬ p.start <+: c :: rest) :
    redact p (c :: rest) = c :: redact p rest := by
  rw [redact, if_neg (by rwa [List.isPrefixOf_iff_prefix])]

theorem redact_bare {behind : List α} (h : Ends scheme.word behind) :
    redact p (p.start ++ behind) = p.start ++ redact p behind := by
  obtain ⟨c, start, is_start⟩ := exists_cons_of_ne_nil p.filled
  have is_text : p.start ++ behind = c :: (start ++ behind) := by rw [is_start, cons_append]
  have leading : p.start.isPrefixOf (c :: (start ++ behind)) = true := by
    rw [← is_text, List.isPrefixOf_iff_prefix]
    exact prefix_append _ _
  rw [is_text, redact, if_pos leading, ← is_text, drop_left, takeWhile_of_ends h, if_pos rfl]

theorem redact_token {token rest : List α} (filled : token ≠ [])
    (words : ∀ c ∈ token, scheme.word c = true) (h : Ends scheme.word rest) :
    redact p (p.start ++ (token ++ rest)) = scheme.marker ++ redact p rest := by
  obtain ⟨c, start, is_start⟩ := exists_cons_of_ne_nil p.filled
  have is_text : p.start ++ (token ++ rest) = c :: (start ++ (token ++ rest)) := by
    rw [is_start, cons_append]
  have leading : p.start.isPrefixOf (c :: (start ++ (token ++ rest))) = true := by
    rw [← is_text, List.isPrefixOf_iff_prefix]
    exact prefix_append _ _
  rw [is_text, redact, if_pos leading, ← is_text, drop_left,
    takeWhile_append_of_pos words, takeWhile_of_ends h, append_nil, if_neg filled,
    dropWhile_append_of_pos words, dropWhile_of_ends h]

/-- A text is empty, or starts with a bare prefix, a token or a character that starts neither. -/
theorem redact_induction {motive : List α → Prop} (nil : motive [])
    (bare : ∀ behind, Ends scheme.word behind → motive behind → motive (p.start ++ behind))
    (token : ∀ token rest, token ≠ [] → (∀ c ∈ token, scheme.word c = true) →
      Ends scheme.word rest → motive rest → motive (p.start ++ (token ++ rest)))
    (skip : ∀ c rest, ¬ p.start <+: c :: rest → motive rest → motive (c :: rest))
    (text : List α) : motive text := by
  fun_induction redact p text with
  | case1 => exact nil
  | case2 c rest leading no_token ih =>
      obtain ⟨behind, is_text⟩ := List.isPrefixOf_iff_prefix.mp leading
      rw [← is_text] at no_token ih ⊢
      rw [drop_left] at no_token ih
      refine bare behind ?_ ih
      intro c mem
      cases behind with
      | nil => cases mem
      | cons d behind =>
          cases mem
          by_contra is_word
          rw [takeWhile_cons_of_pos (by simpa using is_word)] at no_token
          cases no_token
  | case3 c rest leading some_token ih =>
      obtain ⟨behind, is_text⟩ := List.isPrefixOf_iff_prefix.mp leading
      rw [← is_text] at some_token ih ⊢
      rw [drop_left] at some_token ih
      have whole := takeWhile_append_dropWhile (p := scheme.word) (l := behind)
      rw [← whole]
      exact token _ _ some_token (fun c mem => mem_takeWhile_imp mem)
        (ends_dropWhile scheme.word behind) ih
  | case4 c rest no_prefix ih =>
      exact skip c rest (by rwa [List.isPrefixOf_iff_prefix] at no_prefix) ih

/-! ## What it leaves as it was -/

/-- Characters of no prefix are passed by. -/
theorem redact_append_of_apart {lead : List α} (h : ∀ c ∈ lead, c ∉ p.start) (text : List α) :
    redact p (lead ++ text) = lead ++ redact p text := by
  induction lead with
  | nil => rfl
  | cons c lead ih =>
      rw [cons_append, redact_skip, ih fun d mem => h d (mem_cons_of_mem _ mem),
        cons_append]
      rintro ⟨more, is_text⟩
      obtain ⟨d, start, is_start⟩ := exists_cons_of_ne_nil p.filled
      rw [is_start, cons_append, List.cons.injEq] at is_text
      exact h c mem_cons_self (by rw [is_start, is_text.1]; exact mem_cons_self)

/-- Nothing before the first place the prefix stands at is touched. -/
theorem redact_append_of_first
    (first : ∀ lead tail, before = lead ++ tail → tail ≠ [] → ¬ p.start <+: tail ++ after) :
    redact p (before ++ after) = before ++ redact p after := by
  induction before with
  | nil => rfl
  | cons c before ih =>
      have here := first [] (c :: before) rfl (cons_ne_nil _ _)
      rw [cons_append] at here
      rw [cons_append, redact_skip p here, cons_append, ih]
      intro lead tail is_before filled
      exact first (c :: lead) tail (by rw [is_before, cons_append]) filled

theorem redact_marker_append (text : List α) :
    redact p (scheme.marker ++ text) = scheme.marker ++ redact p text :=
  redact_append_of_apart p (fun c mem mem' => p.apart c mem' mem) text

theorem ends_redact (h : Ends scheme.word text) :
    Ends scheme.word (redact p text) := by
  cases text with
  | nil => rwa [redact_nil]
  | cons c text =>
      rw [ends_cons] at h
      have apart : ∀ d ∈ [c], d ∉ p.start := fun d mem => by
        rw [mem_singleton.mp mem]
        exact p.not_mem_of_apart h
      have passed := redact_append_of_apart p apart text
      rw [singleton_append] at passed
      rw [passed, singleton_append, ends_cons]
      exact h

/-- The word characters a text is left to start with are those it started with. -/
theorem prefix_of_redact (text : List α) :
    ∀ run more, redact p text = run ++ more → (∀ c ∈ run, scheme.word c = true) → run <+: text := by
  induction text using redact_induction p with
  | nil =>
      intro run more is_text words
      rw [redact_nil] at is_text
      obtain ⟨rfl, -⟩ := append_eq_nil_iff.mp is_text.symm
      exact nil_prefix
  | bare behind ends ih =>
      intro run more is_text words
      rw [redact_bare p ends] at is_text
      rcases append_eq_append_iff.mp is_text with ⟨mid, rfl, is_behind⟩ | ⟨mid, is_start, -⟩
      · have no_mid : mid = [] :=
          eq_nil_of_ends (fun c mem => words c (mem_append_right _ mem)) (ends_redact p ends)
            is_behind
        rw [no_mid, append_nil]
        exact prefix_append _ _
      · rw [is_start, append_assoc]
        exact prefix_append _ _
  | token token rest filled token_words ends ih =>
      intro run more is_text words
      rw [redact_token p filled token_words ends] at is_text
      rw [eq_nil_of_ends words (ends_marker_append _) is_text]
      exact nil_prefix
  | skip c rest no_prefix ih =>
      intro run more is_text words
      rw [redact_skip p no_prefix] at is_text
      cases run with
      | nil => exact nil_prefix
      | cons d run =>
          rw [cons_append, List.cons.injEq] at is_text
          rw [is_text.1, cons_prefix_cons]
          exact ⟨rfl, ih run more is_text.2 fun e mem => words e (mem_cons_of_mem _ mem)⟩

/-! ## What it leaves behind -/

/-- Taking one prefix's tokens out shows no prefix that was not shown before. -/
theorem exposes_of_redact (h : Exposes scheme.word q.start (redact p text)) :
    Exposes scheme.word q.start text := by
  induction text using redact_induction p with
  | nil => rwa [redact_nil] at h
  | bare behind ends ih =>
      rw [redact_bare p ends, exposes_append_of_ends q (ends_redact p ends)] at h
      exact h.elim (fun h => h.append_right behind) fun h => (ih h).append_left p.start
  | token token rest filled words ends ih =>
      rw [redact_token p filled words ends, exposes_marker_append] at h
      exact ((ih h).append_left token).append_left p.start
  | skip c rest no_prefix ih =>
      rw [redact_skip p no_prefix, exposes_cons] at h
      rcases h with ⟨d, after, is_text, is_word⟩ | h
      · -- the prefix and the character behind it stood in the text as well
        have run : q.start ++ [d] <+: c :: rest := by
          refine prefix_of_redact p (c :: rest) (q.start ++ [d]) after ?_ ?_
          · rw [redact_skip p no_prefix, is_text]
            simp
          · intro e mem
            rcases mem_append.mp mem with mem | mem
            · exact q.words e mem
            · rw [mem_singleton.mp mem]
              exact is_word
        exact Exposes.of_prefix ⟨[], d, [], rfl, is_word⟩ run
      · exact (ih h).cons c

/-- No token with the prefix is left. -/
theorem not_exposes_redact (text : List α) : ¬ Exposes scheme.word p.start (redact p text) := by
  induction text using redact_induction p with
  | nil =>
      rw [redact_nil]
      exact not_exposes_nil
  | bare behind ends ih =>
      rw [redact_bare p ends, exposes_append_of_ends p (ends_redact p ends)]
      exact not_or.mpr ⟨not_exposes_self, ih⟩
  | token token rest filled words ends ih =>
      rwa [redact_token p filled words ends, exposes_marker_append]
  | skip c rest no_prefix ih =>
      rw [redact_skip p no_prefix, exposes_cons]
      refine not_or.mpr ⟨?_, ih⟩
      rintro ⟨d, after, is_text, -⟩
      have run : p.start <+: c :: rest := by
        refine prefix_of_redact p (c :: rest) p.start (d :: after) ?_ p.words
        rw [redact_skip p no_prefix, is_text]
      exact no_prefix run

/-- A text that shows no token is left as it is. -/
theorem redact_eq_self (h : ¬ Exposes scheme.word p.start text) :
    redact p text = text := by
  induction text using redact_induction p with
  | nil => exact redact_nil p
  | bare behind ends ih =>
      rw [redact_bare p ends, ih fun shown => h (shown.append_left p.start)]
  | token token rest filled words ends ih =>
      obtain ⟨c, token, rfl⟩ := exists_cons_of_ne_nil filled
      exact absurd ⟨[], c, token ++ rest, rfl, words c mem_cons_self⟩ h
  | skip c rest no_prefix ih =>
      rw [redact_skip p no_prefix, ih fun shown => h (shown.cons c)]

/-! ## What becomes of a text -/

/-- One text is another with tokens under the marker, each to its last character, and all else as it
    was and where it was. -/
inductive Redacted (credentials : List (Credential scheme)) : List α → List α → Prop where
  | nil : Redacted credentials [] []
  | keep (c : α) {text out : List α} (rest : Redacted credentials text out) :
      Redacted credentials (c :: text) (c :: out)
  | token {p : Credential scheme} {token text out : List α} (known : p ∈ credentials)
      (filled : token ≠ []) (words : ∀ c ∈ token, scheme.word c = true)
      (ends : Ends scheme.word out) (rest : Redacted credentials text out) :
      Redacted credentials (p.start ++ (token ++ text)) (scheme.marker ++ out)

variable {p} {credentials : List (Credential scheme)}

omit [DecidableEq α] in
theorem Redacted.append_left {out : List α} (h : Redacted credentials text out) (kept : List α) :
    Redacted credentials (kept ++ text) (kept ++ out) := by
  induction kept with
  | nil => exact h
  | cons c kept ih => exact ih.keep c

omit [DecidableEq α] in
theorem Redacted.refl (text : List α) : Redacted credentials text text := by
  simpa using Redacted.nil.append_left text

omit [DecidableEq α] in
/-- Word characters a text starts with stood there before. -/
theorem Redacted.of_words {run out : List α} (words : ∀ c ∈ run, scheme.word c = true) :
    ∀ {text : List α}, Redacted credentials text (run ++ out) →
      ∃ rest, text = run ++ rest ∧ Redacted credentials rest out := by
  induction run with
  | nil => exact fun h => ⟨_, rfl, h⟩
  | cons c run ih =>
      intro text h
      rw [cons_append] at h
      generalize is_out : c :: (run ++ out) = whole at h
      cases h with
      | nil => cases is_out
      | keep d rest =>
          rw [List.cons.injEq] at is_out
          obtain ⟨rfl, rfl⟩ := is_out
          obtain ⟨behind, rfl, kept⟩ := ih (fun d mem => words d (mem_cons_of_mem _ mem)) rest
          exact ⟨behind, rfl, kept⟩
      | token known filled token_words ends rest =>
          have opening : c = scheme.opening := (List.cons.injEq _ _ _ _ ▸ is_out).1
          have apart := scheme.opening_apart
          rw [← opening, words c mem_cons_self] at apart
          cases apart

/-- One more prefix taken out. -/
theorem Redacted.redact (known : p ∈ credentials) (out : List α) :
    ∀ text, Redacted credentials text out → Redacted credentials text (redact p out) := by
  induction size : out.length using Nat.strong_induction_on generalizing out with
  | _ size ih =>
    subst size
    intro text h
    cases h with
    | nil => rw [redact_nil]; exact .nil
    | @token q token text out known' filled words ends rest =>
        -- a marker is passed by as a whole
        rw [redact_marker_append]
        refine .token known' filled words (ends_redact p ends) (ih out.length ?_ out rfl text rest)
        rw [length_append, Scheme.marker, length_cons]
        omega
    | @keep c text out rest =>
        by_cases leading : p.start <+: c :: out
        · obtain ⟨behind, is_text⟩ := leading
          have whole := rest.keep c
          have shorter : behind.length < (c :: out).length := by
            rw [← is_text, length_append]
            have := p.length_pos
            omega
          rw [← is_text] at whole ⊢
          obtain ⟨before, is_before, kept⟩ := Redacted.of_words p.words whole
          rw [is_before]
          have cut := takeWhile_append_dropWhile (p := scheme.word) (l := behind)
          by_cases bare : behind.takeWhile scheme.word = []
          · rw [bare, nil_append] at cut
            have ends : Ends scheme.word behind := cut ▸ ends_dropWhile scheme.word behind
            rw [redact_bare p ends]
            exact (ih _ shorter behind rfl before kept).append_left p.start
          · have words : ∀ c ∈ behind.takeWhile scheme.word, scheme.word c = true :=
              fun c mem => mem_takeWhile_imp mem
            have ends := ends_dropWhile scheme.word behind
            rw [← cut] at kept
            obtain ⟨after, is_after, rest⟩ := Redacted.of_words words kept
            rw [← cut, redact_token p bare words ends, is_after]
            refine .token known bare words (ends_redact p ends) (ih _ ?_ _ rfl after rest)
            exact Nat.lt_of_le_of_lt (dropWhile_suffix _).length_le shorter
        · rw [redact_skip p leading]
          exact (ih out.length (by simp) out rfl text rest).keep c

/-! ## All the prefixes -/

/-- The tokens of each prefix in turn. -/
def redactAll (credentials : List (Credential scheme)) (text : List α) : List α :=
  credentials.foldl (fun text p => redact p text) text

/-- No token is left, whichever prefix was taken out last. -/
theorem not_exposes_redactAll (text : List α) :
    ∀ p ∈ credentials, ¬ Exposes scheme.word p.start (redactAll credentials text) := by
  have keeps (rest : List (Credential scheme)) (q : Credential scheme) :
      ∀ text, ¬ Exposes scheme.word q.start text →
        ¬ Exposes scheme.word q.start (redactAll rest text) := by
    induction rest with
    | nil => exact fun text h => h
    | cons p rest ih => exact fun text h => ih _ fun shown => h (exposes_of_redact p q shown)
  induction credentials generalizing text with
  | nil => simp
  | cons p rest ih =>
      intro q mem
      rcases mem_cons.mp mem with rfl | mem
      · exact keeps rest q _ (not_exposes_redact q text)
      · exact ih _ q mem

theorem redactAll_eq_self (h : ∀ p ∈ credentials, ¬ Exposes scheme.word p.start text) :
    redactAll credentials text = text := by
  induction credentials with
  | nil => rfl
  | cons p rest ih =>
      unfold redactAll at ih ⊢
      rw [foldl_cons, redact_eq_self p (h p mem_cons_self)]
      exact ih fun q mem => h q (mem_cons_of_mem _ mem)

theorem redacted_redactAll (text : List α) :
    Redacted credentials text (redactAll credentials text) := by
  have along (rest : List (Credential scheme)) (known : ∀ p ∈ rest, p ∈ credentials) :
      ∀ out, Redacted credentials text out → Redacted credentials text (redactAll rest out) := by
    induction rest with
    | nil => exact fun out h => h
    | cons p rest ih =>
        exact fun out h => ih (fun q mem => known q (mem_cons_of_mem _ mem)) _
          (Redacted.redact (known p mem_cons_self) out text h)
  exact along credentials (fun _ mem => mem) text (.refl text)

end Redact

end Redact
