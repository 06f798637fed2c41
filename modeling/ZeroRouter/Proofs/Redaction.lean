import ZeroRouter.Api.Redaction
import ZeroRouter.Lib.Redact

/-!
# Nothing that looks like a credential is left

Each pass of the scan takes one prefix's tokens out; the passes together leave none, whichever
prefix comes last, and a second run finds nothing to do.  The cut that bounds the text keeps a part
of it and puts dots behind, which are characters of a token to the scan.
-/

namespace ZeroRouter.Redaction

open List ByteOffset Redact

variable {start behind : List Char} {p : Credential scheme}

/-! ## The prefixes -/

def scheme : Scheme Char where
  word := isSecretChar
  opening := '['
  body := "REDACTED".toList
  closing := ']'
  opening_apart := by decide
  closing_apart := by decide

theorem marker_eq : scheme.marker = redacted := by decide

theorem prefixes_filled : ∀ start ∈ prefixes, start ≠ [] := by decide

theorem prefixes_words (mem : start ∈ prefixes) :
    ∀ c ∈ start, isSecretChar c = true := by
  have all : (prefixes.all fun start => start.all isSecretChar) = true := by decide
  exact all_eq_true.mp (all_eq_true.mp all start mem)

theorem prefixes_apart (mem : start ∈ prefixes) :
    ∀ c ∈ start, c ∉ redacted ∧ c ∉ ellipsis := by
  have all : (prefixes.all fun start =>
      start.all fun c => !redacted.contains c && !ellipsis.contains c) = true := by decide
  intro c mem'
  simpa using all_eq_true.mp (all_eq_true.mp all start mem) c mem'

/-- The prefixes, as the scan needs them to be. -/
def credentials : List (Credential scheme) :=
  prefixes.attach.map fun start =>
    { start := start.1
      filled := prefixes_filled start.1 start.2
      words := prefixes_words start.2
      apart := fun c mem => marker_eq ▸ (prefixes_apart start.2 c mem).1 }

theorem map_start_credentials : credentials.map (·.start) = prefixes := by
  unfold credentials
  rw [map_map]
  exact attach_map_subtype_val prefixes

theorem exists_credential (mem : start ∈ prefixes) :
    ∃ p ∈ credentials, p.start = start := by
  rw [← map_start_credentials] at mem
  exact mem_map.mp mem

/-! ## One pass -/

theorem secretEnd_eq (end_ : Nat) (text : List Char) :
    secretEnd end_ text = end_ + byteCount (text.takeWhile isSecretChar) := by
  induction text generalizing end_ with
  | nil => rfl
  | cons c text ih =>
      rw [secretEnd]
      by_cases is_secret : isSecretChar c = true
      · rw [if_pos is_secret, ih, takeWhile_cons_of_pos is_secret, byteCount_cons]
        omega
      · rw [if_neg is_secret, takeWhile_cons_of_neg is_secret]
        rfl

theorem byteCount_eq_zero {text : List Char} : byteCount text = 0 ↔ text = [] := by
  cases text with
  | nil => simp
  | cons c text =>
      have := c.utf8Size_pos
      rw [byteCount_cons]
      exact iff_of_false (by omega) (cons_ne_nil _ _)

/-- A token ends where its run of characters does. -/
theorem tokenEnd_eq (before content : List Char) :
    tokenEnd (before ++ content) (byteCount before) =
      some (byteCount before + byteCount (content.takeWhile isSecretChar)) := by
  unfold tokenEnd
  rw [sliceFrom_append, Option.map_some, secretEnd_eq]

theorem replaceRange_eq (before token after replacement : List Char) :
    replaceRange (before ++ (token ++ after)) (byteCount before)
        (byteCount before + byteCount token) replacement =
      some (before ++ replacement ++ after) := by
  have is_text : before ++ (token ++ after) = (before ++ token) ++ after := by
    rw [append_assoc]
  unfold replaceRange
  rw [if_pos (Nat.le_add_right _ _), sliceTo_append, is_text, ← byteCount_append, sliceFrom_append]
  rfl

/-- The search finds nothing where nothing is to be taken out. -/
theorem redact_of_find_eq_none (found : find p.start behind = none) : redact p behind = behind := by
  have nowhere := (findWhere_eq_none _).mp found
  refine redact_eq_self p ?_
  rintro ⟨before, c, after, rfl, -⟩
  have here := nowhere (p.start ++ c :: after) ⟨before, by simp⟩
  rw [← Bool.not_eq_true, List.isPrefixOf_iff_prefix] at here
  exact here (prefix_append _ _)

/-- The search finds the first place something is to be taken out at. -/
theorem redact_of_find_eq_some {relative : Nat} (found : find p.start behind = some relative) :
    ∃ before content, behind = before ++ (p.start ++ content) ∧ byteCount before = relative ∧
      redact p behind = before ++ redact p (p.start ++ content) := by
  obtain ⟨before, after, rfl, is_relative, stops, first⟩ := (findWhere_eq_some _).mp found
  obtain ⟨content, rfl⟩ := List.isPrefixOf_iff_prefix.mp stops
  refine ⟨before, content, rfl, is_relative, redact_append_of_first p ?_⟩
  intro lead tail is_before filled
  have here := first lead tail is_before filled
  rwa [← Bool.not_eq_true, List.isPrefixOf_iff_prefix] at here

/-- The scan, from where it has come to, takes out what stands behind that. -/
theorem scrubPrefix_eq (p : Credential scheme) (fuel : Nat) (done behind : List Char)
    (enough : behind.length < fuel) :
    scrubPrefix p.start fuel (done ++ behind) (byteCount done) =
      some (done ++ redact p behind) := by
  induction fuel generalizing done behind with
  | zero => omega
  | succ fuel ih =>
      unfold scrubPrefix
      rw [sliceFrom_append, Option.bind_eq_bind, Option.bind_some]
      cases found : find p.start behind with
      | none =>
          rw [redact_of_find_eq_none found]
          rfl
      | some relative =>
          obtain ⟨before, content, rfl, rfl, passed⟩ := redact_of_find_eq_some found
          have shorter : content.length < fuel := by
            have := p.length_pos
            simp only [length_append] at enough
            omega
          have is_text : done ++ (before ++ (p.start ++ content)) =
              (done ++ before ++ p.start) ++ content := by
            simp only [append_assoc]
          have is_start : byteCount done + byteCount before + byteCount p.start =
              byteCount (done ++ before ++ p.start) := by
            simp only [byteCount_append]
          have parts := takeWhile_append_dropWhile (p := isSecretChar) (l := content)
          dsimp only
          rw [passed, is_start, is_text, tokenEnd_eq, Option.bind_eq_bind, Option.bind_some]
          by_cases bare : content.takeWhile isSecretChar = []
          · -- the search goes on behind the bare prefix
            rw [bare, nil_append] at parts
            have ends : Ends scheme.word content := parts ▸ ends_dropWhile _ content
            rw [if_pos (by rw [bare]; rfl), ih _ _ shorter, redact_bare p ends]
            simp only [append_assoc]
          · -- the search goes on behind the marker
            have some_bytes := mt byteCount_eq_zero.mp bare
            have words : ∀ c ∈ content.takeWhile isSecretChar, scheme.word c = true :=
              fun c mem => mem_takeWhile_imp mem
            have taken := redact_token p bare words (ends_dropWhile isSecretChar content)
            have replaced := replaceRange_eq (done ++ before)
              (p.start ++ content.takeWhile isSecretChar) (content.dropWhile isSecretChar) redacted
            have shorter' : (content.dropWhile isSecretChar).length < fuel :=
              Nat.lt_of_le_of_lt (dropWhile_suffix _).length_le shorter
            rw [append_assoc p.start, parts, ← append_assoc _ p.start,
              byteCount_append p.start, ← Nat.add_assoc, ← byteCount_append _ p.start] at replaced
            rw [parts] at taken
            rw [if_neg (by omega), ← byteCount_append, replaced, Option.bind_some,
              ← byteCount_append, ih _ _ shorter', taken, marker_eq]
            simp only [append_assoc]

/-! ## All passes -/

theorem foldlM_scrubPrefix (passes : List (Credential scheme)) (input : List Char) :
    ∃ enough, ∀ fuel, enough ≤ fuel →
      (passes.map (·.start)).foldlM (fun scrubbed start => scrubPrefix start fuel scrubbed 0)
          input =
        some (redactAll passes input) := by
  induction passes generalizing input with
  | nil => exact ⟨0, fun _ _ => rfl⟩
  | cons p passes ih =>
      obtain ⟨enough, rest⟩ := ih (redact p input)
      refine ⟨max (input.length + 1) enough, fun fuel is_enough => ?_⟩
      have pass := scrubPrefix_eq p fuel [] input (by omega)
      rw [nil_append, nil_append, byteCount_nil] at pass
      rw [map_cons, foldlM_cons, pass, Option.bind_eq_bind, Option.bind_some,
        rest fuel (by omega)]
      rfl

/-- The scan ends, cuts no character, and takes out the tokens of each prefix. -/
theorem scrubSecretPatterns_eq (input : List Char) :
    ∃ enough, ∀ fuel, enough ≤ fuel →
      scrubSecretPatterns fuel input = some (redactAll credentials input) := by
  obtain ⟨enough, ends⟩ := foldlM_scrubPrefix credentials input
  rw [map_start_credentials] at ends
  exact ⟨enough, ends⟩

theorem not_exposes_scrubbed (input : List Char) (mem : start ∈ prefixes) :
    ¬ Exposes isSecretChar start (redactAll credentials input) := by
  obtain ⟨p, known, rfl⟩ := exists_credential mem
  exact not_exposes_redactAll input p known

/-- A second run finds nothing to do. -/
theorem redactAll_redactAll (input : List Char) :
    redactAll credentials (redactAll credentials input) = redactAll credentials input :=
  redactAll_eq_self (not_exposes_redactAll input)

/-! ## The bound -/

/-- Where the text is cut, a character starts. -/
theorem cut_boundaryUpTo (text : List Char) (limit : Nat) :
    ∃ kept after, text = kept ++ after ∧ byteCount kept = boundaryUpTo text limit ∧
      byteCount kept ≤ limit := by
  induction limit with
  | zero => exact ⟨[], text, rfl, rfl, Nat.le_refl _⟩
  | succ limit ih =>
      rw [boundaryUpTo]
      by_cases boundary : isCharBoundary text (limit + 1) = true
      · obtain ⟨⟨kept, after⟩, is_cut⟩ := Option.isSome_iff_exists.mp boundary
        obtain ⟨is_text, is_size⟩ := cut_eq_some.mp is_cut
        rw [if_pos boundary]
        exact ⟨kept, after, is_text, is_size, is_size.le⟩
      · obtain ⟨kept, after, is_text, is_size, fits⟩ := ih
        rw [if_neg boundary]
        exact ⟨kept, after, is_text, is_size, Nat.le_succ_of_le fits⟩

theorem length_le_byteCount (text : List Char) : text.length ≤ byteCount text := by
  induction text with
  | nil => exact Nat.le_refl _
  | cons c text ih =>
      have := c.utf8Size_pos
      rw [length_cons, byteCount_cons]
      omega

/-- Before the dots a prefix shows only at the end of what is kept. -/
theorem exposes_ellipsis_iff {input kept : List Char} (mem : start ∈ prefixes)
    (leading : kept <+: redactAll credentials input) :
    Exposes isSecretChar start (kept ++ ellipsis) ↔ start <:+ kept := by
  refine exposes_append_iff rfl (prefixes_filled start mem) ?_ fun shown =>
    not_exposes_scrubbed input mem (shown.of_prefix leading)
  exact fun c mem' => (prefixes_apart mem c mem').2

/-- The scan ends and leaves no prefix with a character of a token behind it, takes nothing out but
    tokens, and finds nothing to do a second time.  What is handed on is bounded, and shows a prefix
    with such a character behind it only where it was cut behind a bare prefix: the character is a
    dot of the ellipsis. -/
theorem sanitized (input : List Char) :
    ∃ enough out kept tail,
      (∀ fuel, enough ≤ fuel →
        scrubSecretPatterns fuel input = some out ∧ scrubSecretPatterns fuel out = some out ∧
          sanitizeApiError fuel input = some (kept ++ tail)) ∧
      (∀ start ∈ prefixes, ¬ Exposes isSecretChar start out) ∧
      Redacted credentials input out ∧
      kept <+: out ∧ (kept ++ tail).length ≤ maxApiErrorChars + ellipsis.length ∧
      (out.length ≤ maxApiErrorChars ∧ kept = out ∧ tail = [] ∨
        maxApiErrorChars < out.length ∧ byteCount kept ≤ maxApiErrorChars ∧ tail = ellipsis) ∧
      ∀ start ∈ prefixes,
        (Exposes isSecretChar start (kept ++ tail) ↔ tail = ellipsis ∧ start <:+ kept) := by
  obtain ⟨enough, first⟩ := scrubSecretPatterns_eq input
  obtain ⟨enough', second⟩ := scrubSecretPatterns_eq (redactAll credentials input)
  rw [redactAll_redactAll] at second
  have clean {start : List Char} (mem : start ∈ prefixes) := not_exposes_scrubbed input mem
  have ends (kept tail : List Char)
      (handed : ∀ fuel, enough ≤ fuel → sanitizeApiError fuel input = some (kept ++ tail))
      (fuel : Nat) (is_enough : max enough enough' ≤ fuel) :
      scrubSecretPatterns fuel input = some (redactAll credentials input) ∧
        scrubSecretPatterns fuel (redactAll credentials input) =
          some (redactAll credentials input) ∧
        sanitizeApiError fuel input = some (kept ++ tail) :=
    ⟨first fuel (by omega), second fuel (by omega), handed fuel (by omega)⟩
  by_cases short : (redactAll credentials input).length ≤ maxApiErrorChars
  · refine ⟨max enough enough', redactAll credentials input, redactAll credentials input, [],
      ends _ _ ?_, fun start mem => clean mem, redacted_redactAll input, List.prefix_rfl, ?_,
      .inl ⟨short, rfl, rfl⟩, ?_⟩
    · intro fuel is_enough
      unfold sanitizeApiError
      rw [first fuel is_enough, Option.bind_eq_bind, Option.bind_some, if_pos short,
        List.append_nil]
      rfl
    · rw [List.append_nil]
      exact Nat.le_add_right_of_le short
    · intro start mem
      rw [List.append_nil]
      exact iff_of_false (clean mem) fun h => by cases h.1
  · obtain ⟨kept, after, is_text, is_size, fits⟩ :=
      cut_boundaryUpTo (redactAll credentials input) maxApiErrorChars
    have leading : kept <+: redactAll credentials input := ⟨after, is_text.symm⟩
    refine ⟨max enough enough', redactAll credentials input, kept, ellipsis, ends _ _ ?_,
      fun start mem => clean mem, redacted_redactAll input, leading, ?_,
      .inr ⟨Nat.lt_of_not_le short, fits, rfl⟩, ?_⟩
    · intro fuel is_enough
      unfold sanitizeApiError
      rw [first fuel is_enough, Option.bind_eq_bind, Option.bind_some, if_neg short, ← is_size,
        is_text, sliceTo_append]
      rfl
    · have := length_le_byteCount kept
      rw [List.length_append]
      omega
    · intro start mem
      rw [exposes_ellipsis_iff mem leading, eq_self_iff_true, true_and]

/-- Blanks, a bare prefix where the text is cut, and more of the text behind it. -/
def cutBehindPrefix : List Char := List.replicate 497 ' ' ++ "sk- was refused".toList

/-- The text is cut behind the bare prefix, and the ellipsis reads as its token. -/
theorem ellipsis_behind_prefix :
    ∃ out, sanitizeApiError 600 cutBehindPrefix = some out ∧
      Exposes isSecretChar "sk-".toList out ∧ scrubSecretPatterns 600 out ≠ some out := by
  refine ⟨List.replicate 497 ' ' ++ "sk-...".toList, by decide +kernel, ?_, by decide +kernel⟩
  exact ⟨List.replicate 497 ' ', '.', "..".toList, by decide +kernel, rfl⟩

end ZeroRouter.Redaction
