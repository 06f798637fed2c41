import ZeroRouter.Api.Backoff

/-!
# Reading a retry hint panics on a band of numbers

The slice is always on a boundary.  The duration is not always one: a number that rounds to a finite
`f64` of at least `2 ^ 64` seconds panics, and one beyond every finite `f64` is passed over.
-/

namespace ZeroRouter.Backoff

open Option

variable {number : ℚ}

/-! ## The slice -/

/-- What follows the first occurrence of a pattern. -/
def afterFirst (pattern : List Char) : List Char → Option (List Char)
  | [] => if pattern.isEmpty then some [] else none
  | c :: rest =>
      if pattern.isPrefixOf (c :: rest) then some ((c :: rest).drop pattern.length)
      else afterFirst pattern rest

theorem sliceFrom_append (front text : List Char) :
    sliceFrom (front ++ text) (utf8Len front) = some text := by
  induction front with
  | nil =>
      cases text <;> rfl
  | cons c rest ih =>
      have pos := c.utf8Size_pos
      have len : utf8Len (c :: rest) = c.utf8Size + utf8Len rest := rfl
      obtain ⟨offset, is_succ⟩ : ∃ offset, utf8Len (c :: rest) = offset + 1 :=
        ⟨utf8Len (c :: rest) - 1, by omega⟩
      rw [is_succ, List.cons_append, sliceFrom, if_pos (by omega), ← is_succ, len,
        Nat.add_sub_cancel_left]
      exact ih

theorem sliceFrom_cons (c : Char) (rest : List Char) (offset : Nat) :
    sliceFrom (c :: rest) (c.utf8Size + offset) = sliceFrom rest offset := by
  have pos := c.utf8Size_pos
  obtain ⟨before, is_succ⟩ : ∃ before, c.utf8Size + offset = before + 1 :=
    ⟨c.utf8Size + offset - 1, by omega⟩
  rw [is_succ, sliceFrom, if_pos (by omega), ← is_succ, Nat.add_sub_cancel_left]

/-- The slice after a hint is where the hint was found, and on a boundary. -/
theorem slice_afterFirst (pattern text : List Char) :
    (find pattern text = none ∧ afterFirst pattern text = none) ∨
      ∃ pos after, find pattern text = some pos ∧ afterFirst pattern text = some after ∧
        sliceFrom text (pos + utf8Len pattern) = some after := by
  induction text with
  | nil =>
      cases pattern with
      | nil => exact .inr ⟨0, [], rfl, rfl, rfl⟩
      | cons c rest => exact .inl ⟨rfl, rfl⟩
  | cons c rest ih =>
      unfold find afterFirst
      by_cases here : pattern.isPrefixOf (c :: rest) = true
      · rw [if_pos here, if_pos here]
        obtain ⟨tail, is_tail⟩ := List.isPrefixOf_iff_prefix.mp here
        refine .inr ⟨0, tail, rfl, ?_, ?_⟩
        · rw [← is_tail, List.drop_left]
        · rw [← is_tail, Nat.zero_add]
          exact sliceFrom_append pattern tail
      · rw [if_neg here, if_neg here]
        rcases ih with ⟨missing, none⟩ | ⟨pos, after, found, is_after, slice⟩
        · rw [missing]
          exact .inl ⟨rfl, none⟩
        · rw [found]
          refine .inr ⟨c.utf8Size + pos, after, rfl, is_after, ?_⟩
          rw [Nat.add_assoc, sliceFrom_cons]
          exact slice

/-! ## The number -/

/-- The number after a hint. -/
def hintNumber (lower hint : List Char) : Option ℚ :=
  (afterFirst hint lower).bind fun after => parseDecimal (numStr after)

/-- The number is a finite `f64` that no duration holds. -/
def Overruns (number : ℚ) : Prop := 2 ^ 64 - 2 ^ 10 ≤ number ∧ number < 2 ^ 1024 - 2 ^ 970

/-- The number is a wait of a `u64` of milliseconds. -/
def Waits (number : ℚ) : Prop := number < 18446744073709550

theorem digitsValue_nonneg (text : List Char) : (0 : ℚ) ≤ digitsValue text := Nat.cast_nonneg _

theorem parseDecimal_nonneg {text : List Char} (h : parseDecimal text = some number) :
    0 ≤ number := by
  unfold parseDecimal at h
  dsimp only at h
  split at h
  · split at h
    · cases h
    · cases h
      exact digitsValue_nonneg _
  · split at h
    · cases h
      have nonneg := digitsValue_nonneg
      positivity
    · cases h

theorem hintNumber_nonneg {lower hint : List Char} (h : hintNumber lower hint = some number) :
    0 ≤ number := by
  obtain ⟨after, -, parsed⟩ := bind_eq_some_iff.mp h
  exact parseDecimal_nonneg parsed

section Number

variable {number : ℚ}

/-- Finite, from the midpoint above the last finite value down. -/
theorem rounded_finite_iff (nonneg : 0 ≤ number) :
    Binary64.rounded number < 2 ^ (1024 : ℤ) ↔ number < 2 ^ 1024 - 2 ^ 970 := by
  have reached := Binary64.le_rounded_iff (k := 1023) (by norm_num) nonneg
  rw [← not_le, ← not_le]
  refine not_congr ?_
  rw [show (1023 : ℤ) + 1 = (1024 : ℕ) from rfl, show (1023 : ℤ) - 53 = (970 : ℕ) from rfl,
    zpow_natCast, zpow_natCast] at reached
  rw [← reached, show (1024 : ℤ) = (1024 : ℕ) from rfl, zpow_natCast]

/-- A duration overflows from `2 ^ 64` seconds on, which is reached by rounding. -/
theorem overflow_iff (nonneg : 0 ≤ number) :
    (2 : ℚ) ^ (64 : ℤ) ≤ Binary64.rounded number ↔ 2 ^ 64 - 2 ^ 10 ≤ number := by
  have reached := Binary64.le_rounded_iff (k := 63) (by norm_num) nonneg
  rw [show (63 : ℤ) + 1 = (64 : ℕ) from rfl, show (63 : ℤ) - 53 = (10 : ℕ) from rfl,
    zpow_natCast, zpow_natCast] at reached
  rw [← reached, show (64 : ℤ) = (64 : ℕ) from rfl, zpow_natCast]

/-- The milliseconds of a value fit exactly up to one bound. -/
theorem millis_isSome_iff {secs : ℚ} (nonneg : 0 ≤ secs) :
    (millis (roundHalfEven (secs * 10 ^ 9)).toNat).isSome = true ↔
      secs < (2 ^ 64 * 10 ^ 6 - 1 / 2) / 10 ^ 9 := by
  have units : 0 ≤ roundHalfEven (secs * 10 ^ 9) := roundHalfEven_nonneg (by positivity)
  have reached : (2 ^ 64 * 10 ^ 6 : ℤ) ≤ roundHalfEven (secs * 10 ^ 9) ↔
      ((2 ^ 64 * 10 ^ 6 : ℤ) : ℚ) - 1 / 2 ≤ secs * 10 ^ 9 :=
    even_le_roundHalfEven_iff (by norm_num)
  have fits : (millis (roundHalfEven (secs * 10 ^ 9)).toNat).isSome = true ↔
      ¬ (2 ^ 64 * 10 ^ 6 : ℤ) ≤ roundHalfEven (secs * 10 ^ 9) := by
    unfold millis
    split
    · next le =>
        unfold u64Max at le
        simp only [isSome_some, true_iff]
        omega
    · next gt =>
        unfold u64Max at gt
        simp only [isSome_none, Bool.false_eq_true, false_iff, not_not]
        omega
  rw [fits, reached, not_le, lt_div_iff₀ (by norm_num)]
  norm_num

/-- A rounded number is within the milliseconds exactly below a midpoint of its binade. -/
theorem rounded_waits_iff (nonneg : 0 ≤ number) :
    Binary64.rounded number < (2 ^ 64 * 10 ^ 6 - 1 / 2) / 10 ^ 9 ↔ Waits number := by
  unfold Waits
  by_cases low : (2 : ℚ) ^ (54 : ℤ) ≤ number
  · by_cases high : number < 2 ^ ((54 : ℤ) + 1)
    · rw [Binary64.rounded_of_normal (by norm_num) low high]
      have reached : (4611686018427388 : ℤ) ≤ roundHalfEven (number / 2 ^ ((54 : ℤ) - 52)) ↔
          ((4611686018427388 : ℤ) : ℚ) - 1 / 2 ≤ number / 2 ^ ((54 : ℤ) - 52) :=
        even_le_roundHalfEven_iff (by norm_num)
      generalize roundHalfEven (number / 2 ^ ((54 : ℤ) - 52)) = units at reached
      norm_num at reached ⊢
      constructor
      · intro lt
        by_contra ge
        have up := reached.mpr (by linarith)
        have up' : (4611686018427388 : ℚ) ≤ units := by exact_mod_cast up
        linarith
      · intro lt
        by_contra ge
        have near : (4611686018427387 : ℚ) < units := by linarith
        have near' : (4611686018427387 : ℤ) < units := by exact_mod_cast near
        have up := reached.mp (by omega)
        linarith
    · have reached := Binary64.le_rounded_of_le (k := 55) (by norm_num)
        (by simpa using le_of_not_gt high)
      norm_num at reached high ⊢
      constructor
      · intro lt
        linarith
      · intro lt
        linarith
  · have under := Binary64.rounded_le_of_lt (k := 53) (by norm_num) nonneg
      (by simpa using lt_of_not_ge low)
    norm_num at under low ⊢
    constructor
    · intro _
      linarith
    · intro _
      linarith

end Number

/-! ## One spelling -/

section Hint

variable {lower hint : List Char}

/-- What a spelling comes to goes by the number after it. -/
theorem readHint_eq (lower hint : List Char) :
    readHint lower hint = waitOf (hintNumber lower hint) := by
  unfold readHint hintNumber
  rcases slice_afterFirst hint lower with ⟨missing, none⟩ | ⟨pos, after, found, is_after, slice⟩
  · rw [missing, none]
    rfl
  · rw [found, is_after]
    dsimp only
    rw [slice, bind_some]

theorem readHint_none (h : hintNumber lower hint = none) : readHint lower hint = .ok none := by
  rw [readHint_eq, h]
  rfl

theorem finite_of_small (small : number < 2 ^ 970) :
    number < 2 ^ 1024 - 2 ^ 970 := by
  refine small.trans_le (le_sub_iff_add_le.mpr ?_)
  rw [← mul_two, ← pow_succ]
  exact pow_le_pow_right₀ (by norm_num) (by norm_num)

/-- A number in the band panics. -/
theorem readHint_overruns (h : hintNumber lower hint = some number) (overruns : Overruns number) :
    readHint lower hint = .error .duration := by
  have nonneg := hintNumber_nonneg h
  rw [readHint_eq, h, waitOf, map_some, Binary64.ofRat,
    if_pos ((rounded_finite_iff nonneg).mpr overruns.2)]
  dsimp only
  rw [fromSecsF64, if_neg (not_lt_of_ge ((overflow_iff nonneg).mpr overruns.1))]

/-- A number below it is a wait, or too long a one to be told in milliseconds. -/
theorem readHint_of_small (h : hintNumber lower hint = some number)
    (small : number < 2 ^ 64 - 2 ^ 10) :
    ∃ wait, readHint lower hint = .ok wait ∧ (wait.isSome = true ↔ Waits number) := by
  have nonneg := hintNumber_nonneg h
  have up : (2 : ℚ) ^ 64 ≤ 2 ^ 970 := pow_le_pow_right₀ (by norm_num) (by norm_num)
  have finite := finite_of_small ((small.trans (by norm_num)).trans_le up)
  have whole : Binary64.rounded number < 2 ^ (64 : ℤ) := by
    rw [← not_le, overflow_iff nonneg]
    exact not_le_of_gt small
  refine ⟨millis (roundHalfEven (Binary64.rounded number * 10 ^ 9)).toNat, ?_, ?_⟩
  · rw [readHint_eq, h, waitOf, map_some, Binary64.ofRat,
      if_pos ((rounded_finite_iff nonneg).mpr finite)]
    dsimp only
    rw [fromSecsF64, if_pos whole]
  · rw [millis_isSome_iff (Binary64.rounded_nonneg nonneg), rounded_waits_iff nonneg]

/-- A number beyond it is passed over. -/
theorem readHint_of_infinite (h : hintNumber lower hint = some number)
    (infinite : 2 ^ 1024 - 2 ^ 970 ≤ number) : readHint lower hint = .ok none := by
  have nonneg := hintNumber_nonneg h
  rw [readHint_eq, h, waitOf, map_some, Binary64.ofRat, if_neg]
  rw [rounded_finite_iff nonneg]
  exact not_lt_of_ge infinite

/-- The three things a spelling can come to. -/
theorem readHint_cases (lower hint : List Char) :
    (readHint lower hint = .error .duration ∧
        ∃ number, hintNumber lower hint = some number ∧ Overruns number) ∨
      ((∀ number, hintNumber lower hint = some number → ¬ Overruns number) ∧
        ∃ wait, readHint lower hint = .ok wait ∧
          (wait.isSome = true ↔ ∃ number, hintNumber lower hint = some number ∧ Waits number)) := by
  cases is_number : hintNumber lower hint with
  | none =>
      refine .inr ⟨nofun, none, readHint_none is_number, ?_⟩
      simp
  | some number =>
      simp only [some.injEq, forall_eq', exists_eq_left']
      by_cases small : number < 2 ^ 64 - 2 ^ 10
      · exact .inr ⟨fun overruns => absurd overruns.1 (not_le_of_gt small),
          readHint_of_small is_number small⟩
      · by_cases finite : number < 2 ^ 1024 - 2 ^ 970
        · have overruns : Overruns number := ⟨le_of_not_gt small, finite⟩
          exact .inl ⟨readHint_overruns is_number overruns, overruns⟩
        · refine .inr ⟨fun overruns => finite overruns.2, none,
            readHint_of_infinite is_number (le_of_not_gt finite), ?_⟩
          have long : ¬ Waits number := by
            unfold Waits
            rw [not_lt] at small ⊢
            refine le_trans ?_ small
            norm_num
          simp [long]

end Hint

/-! ## All the spellings -/

/-- No spelling comes to a number in the band before one comes to a wait. -/
def Sound (lower : List Char) (spellings : List (List Char)) : Prop :=
  ∀ earlier hint later, spellings = earlier ++ hint :: later →
    (∃ number, hintNumber lower hint = some number ∧ Overruns number) →
      ∃ before ∈ earlier, ∃ number, hintNumber lower before = some number ∧ Waits number

theorem firstHint_cases (lower : List Char) (spellings : List (List Char)) :
    (Sound lower spellings ∧ ∃ wait, firstHint lower spellings = .ok wait) ∨
      (¬ Sound lower spellings ∧ firstHint lower spellings = .error .duration) := by
  induction spellings with
  | nil =>
      refine .inl ⟨?_, none, rfl⟩
      intro earlier hint later split
      simp at split
  | cons first rest ih =>
      unfold firstHint
      rcases readHint_cases lower first with ⟨panics, overruns⟩ | ⟨holds, wait, reads, waits⟩
      · rw [panics]
        refine .inr ⟨?_, rfl⟩
        intro sound
        obtain ⟨before, mem, -⟩ := sound [] first rest rfl overruns
        cases mem
      · rw [reads]
        cases wait with
        | some value =>
            -- Whatever comes after a wait is not read.
            refine .inl ⟨?_, some value, rfl⟩
            intro earlier hint later split overruns
            cases earlier with
            | nil =>
                obtain ⟨rfl, -⟩ := List.cons.inj split
                obtain ⟨number, is_number, beyond⟩ := overruns
                exact absurd beyond (holds number is_number)
            | cons head earlier =>
                obtain ⟨rfl, -⟩ := List.cons.inj split
                exact ⟨first, List.mem_cons_self, waits.mp rfl⟩
        | none =>
            have same : Sound lower (first :: rest) ↔ Sound lower rest := by
              constructor
              · intro sound earlier hint later split overruns
                obtain ⟨before, mem, found⟩ :=
                  sound (first :: earlier) hint later (by rw [split]; rfl) overruns
                rcases List.mem_cons.mp mem with rfl | mem
                · exact absurd (waits.mpr found) Bool.false_ne_true
                · exact ⟨before, mem, found⟩
              · intro sound earlier hint later split overruns
                cases earlier with
                | nil =>
                    obtain ⟨rfl, -⟩ := List.cons.inj split
                    obtain ⟨number, is_number, beyond⟩ := overruns
                    exact absurd beyond (holds number is_number)
                | cons head earlier =>
                    obtain ⟨rfl, is_rest⟩ := List.cons.inj split
                    obtain ⟨before, mem, found⟩ := sound earlier hint later is_rest overruns
                    exact ⟨before, List.mem_cons_of_mem _ mem, found⟩
            rw [same]
            exact ih

/-- The wait is never shorter than the schedule's, nor longer than the cap where that is longer. -/
theorem computeBackoff_between {baseMs wait : Nat} {err : UpstreamError}
    (h : computeBackoff baseMs err = .ok wait) :
    baseMs ≤ wait ∧ wait ≤ max baseMs retryAfterCapMs := by
  unfold computeBackoff at h
  split at h
  · cases h
  · cases h
    exact ⟨le_max_right _ _, by omega⟩
  · cases h
    exact ⟨le_rfl, le_max_left _ _⟩

/-- For every text: no slice is off a boundary; and the hint is read, and every wait is between the
    schedule's and the cap, exactly when no spelling comes to a number in the band before one comes
    to a wait. -/
theorem backoff_returns_iff (err : UpstreamError) :
    (parseRetryAfterMs err ≠ .error .slice ∧
      ∀ baseMs, computeBackoff baseMs err ≠ .error .slice) ∧
    (((∃ hint, parseRetryAfterMs err = .ok hint) ∧
        ∀ baseMs, ∃ wait, computeBackoff baseMs err = .ok wait ∧ baseMs ≤ wait ∧
          wait ≤ max baseMs 30000) ↔
      Sound (toLowercase err.text).toList hints) := by
  rcases firstHint_cases (toLowercase err.text).toList hints with
    ⟨sound, hint, reads⟩ | ⟨unsound, panics⟩
  · have parsed : parseRetryAfterMs err = .ok hint := reads
    have waits : ∀ baseMs, ∃ wait, computeBackoff baseMs err = .ok wait := by
      intro baseMs
      unfold computeBackoff
      rw [parsed]
      cases hint with
      | none => exact ⟨_, rfl⟩
      | some value => exact ⟨_, rfl⟩
    refine ⟨⟨?_, ?_⟩, iff_of_true ⟨⟨hint, parsed⟩, ?_⟩ sound⟩
    · rw [parsed]
      nofun
    · intro baseMs
      obtain ⟨wait, is_wait⟩ := waits baseMs
      rw [is_wait]
      nofun
    · intro baseMs
      obtain ⟨wait, is_wait⟩ := waits baseMs
      exact ⟨wait, is_wait, computeBackoff_between is_wait⟩
  · have parsed : parseRetryAfterMs err = .error .duration := panics
    refine ⟨⟨?_, ?_⟩, iff_of_false ?_ unsound⟩
    · rw [parsed]
      nofun
    · intro baseMs
      unfold computeBackoff
      rw [parsed]
      nofun
    · rintro ⟨⟨hint, reads⟩, -⟩
      rw [parsed] at reads
      cases reads

/-- A refusal that asks for an endless wait. -/
def endless : UpstreamError :=
  ⟨some 503, "HTTP 503: retry-after: 99999999999999999999", none, none⟩

theorem endless_wait_panics :
    parseRetryAfterMs endless = .error .duration ∧
      computeBackoff 500 endless = .error .duration := by
  have number : hintNumber (toLowercase endless.text).toList "retry-after:".toList =
      some 99999999999999999999 := by
    decide +kernel
  have overruns : Overruns 99999999999999999999 := by
    refine ⟨by norm_num, ?_⟩
    have whole : (99999999999999999999 : ℚ) < 2 ^ 67 := by norm_num
    have up : (2 : ℚ) ^ 67 ≤ 2 ^ 970 := pow_le_pow_right₀ (by norm_num) (by norm_num)
    exact finite_of_small (whole.trans_le up)
  have parsed : parseRetryAfterMs endless = .error .duration := by
    unfold parseRetryAfterMs hints firstHint
    rw [readHint_overruns number overruns]
  refine ⟨parsed, ?_⟩
  unfold computeBackoff
  rw [parsed]

end ZeroRouter.Backoff
