import ZeroRouter.Api.Bill
import ZeroRouter.Proofs.Rounding

/-!
# A validated table can always be billed

The rates a catalog takes stay four orders of magnitude inside the decimal range for
any `u64` of tokens, so every operation of the bill keeps a value, in order, and off
by no more than its last place.
-/

namespace ZeroRouter

open Option

variable {rates : ModelRates} {usage : OpenAiUsage} {rate cost : Decimal}

theorem billableRate_isSome (h : (billableRate rate).isSome) :
    0 ≤ rate ∧ rate ≤ maxRatePerMtok := by
  unfold billableRate at h
  split at h
  · next bounds => exact bounds
  · cases h

namespace ModelRates

/-- A table whose rates lie between nothing and the largest rate. -/
structure Bounded (rates : ModelRates) : Prop where
  input : 0 ≤ rates.inputRate ∧ rates.inputRate ≤ maxRatePerMtok
  output : 0 ≤ rates.outputRate ∧ rates.outputRate ≤ maxRatePerMtok
  cached : 0 ≤ rates.cachedRate ∧ rates.cachedRate ≤ maxRatePerMtok
  write : 0 ≤ rates.writeRate ∧ rates.writeRate ≤ maxRatePerMtok

theorem Priced.bounded (priced : rates.Priced) : rates.Bounded :=
  ⟨billableRate_isSome priced.input, billableRate_isSome priced.output,
    billableRate_isSome priced.cached, billableRate_isSome priced.write⟩

theorem Valid.priced (valid : rates.Valid) : rates.Priced := by
  have inputRate := billableRate_of_bounds valid.billableInput.getD
  have outputRate := billableRate_of_bounds valid.billableOutput.getD
  have cachedRate := billableRate_of_bounds valid.billableEffectiveCached.getD
  have writeRate := billableRate_of_bounds valid.billableEffectiveWrite.getD
  exact ⟨isSome_iff_exists.mpr ⟨_, inputRate⟩, isSome_iff_exists.mpr ⟨_, outputRate⟩,
    isSome_iff_exists.mpr ⟨_, cachedRate⟩, isSome_iff_exists.mpr ⟨_, writeRate⟩⟩

end ModelRates

/-- The cost of a usage is the bill of its split prompt. -/
theorem roundedUsageCost_eq (priced : rates.Priced) (usage : OpenAiUsage) :
    roundedUsageCost rates usage =
      rates.bill usage.split.fresh usage.split.cached usage.split.written
        usage.completionTokens := by
  have bounded := priced.bounded
  have input := billableRate_of_bounds bounded.input
  have output := billableRate_of_bounds bounded.output
  have cached := billableRate_of_bounds bounded.cached
  have write := billableRate_of_bounds bounded.write
  unfold ModelRates.inputRate at input
  unfold ModelRates.outputRate at output
  have sameCached := rates.cachedRate_eq
  have sameWrite := rates.writeRate_eq
  rw [sameCached] at cached
  rw [sameWrite] at write
  unfold roundedUsageCost ModelRates.bill
  rw [input, output, cached, write, sameCached, sameWrite]
  rfl

/-! ## The operations of a bill -/

/-- One term of a bill: so many tokens at a rate, kept. -/
structure TermKept (tokens : Nat) (rate kept : Decimal) : Prop where
  held : decimalMul tokens rate = some kept
  nonneg : 0 ≤ kept
  error : |kept - tokens * rate| ≤ 1 / 200
  small : kept ≤ 18446744073709551616000000

theorem term_kept {tokens : Nat} (counted : tokens ≤ u64Max)
    (bounds : 0 ≤ rate ∧ rate ≤ maxRatePerMtok) : ∃ kept, TermKept tokens rate kept := by
  obtain ⟨-, nonneg, le⟩ := checkedMul_of_bounds counted bounds
  have ceiling : (u64Max : ℚ) * maxRatePerMtok ≤ 18446744073709551615000000 := by
    norm_num [u64Max, maxRatePerMtok]
  obtain ⟨kept, held⟩ := fitDecimal_isSome (x := tokens * rate) (by
    rw [abs_of_nonneg nonneg]
    exact le.trans (by norm_num [u64Max, maxRatePerMtok, decimalMax]))
  have error := fitDecimal_error nonneg held
  have lost : 5 * (tokens * rate) / decimalMax + 1 / 10 ^ 28 ≤ 1 / 200 := by
    have share : 5 * (tokens * rate) / decimalMax ≤ 5 * 18446744073709551615000000 / decimalMax := by
      unfold decimalMax
      gcongr
      linarith
    have room : (5 : ℚ) * 18446744073709551615000000 / decimalMax + 1 / 10 ^ 28 ≤ 1 / 200 := by
      norm_num [decimalMax]
    linarith
  refine ⟨kept, held, fitDecimal_nonneg nonneg held, error.trans lost, ?_⟩
  have above := (abs_le.mp (error.trans lost)).2
  linarith

/-- One sum of a bill, kept. -/
structure SumKept (a b kept : Decimal) : Prop where
  held : decimalAdd a b = some kept
  nonneg : 0 ≤ kept
  error : |kept - (a + b)| ≤ 1 / 200

theorem sum_kept {a b : Decimal} (left : 0 ≤ a) (right : 0 ≤ b)
    (small : a + b ≤ 75000000000000000000000000) : ∃ kept, SumKept a b kept := by
  have nonneg := add_nonneg left right
  obtain ⟨kept, held⟩ := fitDecimal_isSome (x := a + b) (by
    rw [abs_of_nonneg nonneg]
    exact small.trans (by norm_num [decimalMax]))
  have error := fitDecimal_error nonneg held
  have lost : 5 * (a + b) / decimalMax + 1 / 10 ^ 28 ≤ 1 / 200 := by
    have share : 5 * (a + b) / decimalMax ≤ 5 * 75000000000000000000000000 / decimalMax := by
      unfold decimalMax
      gcongr
    have room : (5 : ℚ) * 75000000000000000000000000 / decimalMax + 1 / 10 ^ 28 ≤ 1 / 200 := by
      norm_num [decimalMax]
    linarith
  exact ⟨kept, held, fitDecimal_nonneg nonneg held, error.trans lost⟩

/-- What every operation of a bill keeps. -/
structure Billed (rates : ModelRates) (fresh cached written completion : Nat)
    (cost : Decimal) where
  input : Decimal
  reads : Decimal
  read : Decimal
  writes : Decimal
  prompt : Decimal
  output : Decimal
  total : Decimal
  inputTerm : TermKept fresh rates.inputRate input
  readsTerm : TermKept cached rates.cachedRate reads
  readSum : SumKept input reads read
  writesTerm : TermKept written rates.writeRate writes
  promptSum : SumKept read writes prompt
  outputTerm : TermKept completion rates.outputRate output
  totalSum : SumKept prompt output total
  divided : decimalDiv total 1000000 = some cost

namespace ModelRates

variable {rates : ModelRates} {fresh cached written completion : Nat}

/-- No operation of a bill leaves the decimal range. -/
theorem Bounded.billed (bounded : rates.Bounded) (hfresh : fresh ≤ u64Max)
    (hcached : cached ≤ u64Max) (hwritten : written ≤ u64Max) (hcompletion : completion ≤ u64Max) :
    ∃ cost, rates.bill fresh cached written completion = some cost ∧
      Nonempty (Billed rates fresh cached written completion cost) := by
  obtain ⟨input, inputTerm⟩ := term_kept hfresh bounded.input
  obtain ⟨reads, readsTerm⟩ := term_kept hcached bounded.cached
  obtain ⟨writes, writesTerm⟩ := term_kept hwritten bounded.write
  obtain ⟨output, outputTerm⟩ := term_kept hcompletion bounded.output
  have inputSmall := inputTerm.small
  have readsSmall := readsTerm.small
  have writesSmall := writesTerm.small
  have outputSmall := outputTerm.small
  obtain ⟨read, readSum⟩ := sum_kept inputTerm.nonneg readsTerm.nonneg (by linarith)
  have readError := (abs_le.mp readSum.error).2
  obtain ⟨prompt, promptSum⟩ := sum_kept readSum.nonneg writesTerm.nonneg (by linarith)
  have promptError := (abs_le.mp promptSum.error).2
  obtain ⟨total, totalSum⟩ := sum_kept promptSum.nonneg outputTerm.nonneg (by linarith)
  have totalError := (abs_le.mp totalSum.error).2
  have share : total / 1000000 ≤ decimalMax := by
    rw [div_le_iff₀ (by norm_num)]
    have : (80000000000000000000000000 : ℚ) ≤ decimalMax * 1000000 := by norm_num [decimalMax]
    linarith
  obtain ⟨cost, divided⟩ := fitDecimal_isSome (x := total / 1000000) (by
    rw [abs_of_nonneg (div_nonneg totalSum.nonneg (by norm_num))]
    exact share)
  refine ⟨cost, ?_, ⟨⟨input, reads, read, writes, prompt, output, total, inputTerm, readsTerm,
    readSum, writesTerm, promptSum, outputTerm, totalSum, divided⟩⟩⟩
  simp only [bill, inputTerm.held, readsTerm.held, readSum.held, writesTerm.held, promptSum.held,
    outputTerm.held, totalSum.held, bind_eq_bind, bind_some]
  exact divided

/-- More tokens, at rates no lower, never cost less. -/
theorem bill_mono {other : ModelRates} {fresh' cached' written' completion' : Nat}
    {dearer : Decimal} (billed : Billed rates fresh cached written completion cost)
    (billed' : Billed other fresh' cached' written' completion' dearer) (bounded : rates.Bounded)
    (rate : rates.AtMost other) (hfresh : fresh ≤ fresh') (hcached : cached ≤ cached')
    (hwritten : written ≤ written') (hcompletion : completion ≤ completion') : cost ≤ dearer := by
  have term : ∀ {n m : Nat} {r s : Decimal} {a b : Decimal}, n ≤ m → 0 ≤ r → r ≤ s →
      TermKept n r a → TermKept m s b → a ≤ b := by
    intro n m r s a b more positive dearer left right
    refine fitDecimal_mono (by positivity) ?_ left.held right.held
    have more' : (n : ℚ) ≤ m := by exact_mod_cast more
    exact mul_le_mul more' dearer positive (by positivity)
  have sum : ∀ {a b c a' b' c' : Decimal}, 0 ≤ a → 0 ≤ b → a ≤ a' → b ≤ b' → SumKept a b c →
      SumKept a' b' c' → c ≤ c' := by
    intro a b c a' b' c' left right first second lower upper
    exact fitDecimal_mono (add_nonneg left right) (add_le_add first second) lower.held upper.held
  have input := term hfresh bounded.input.1 rate.input billed.inputTerm billed'.inputTerm
  have reads := term hcached bounded.cached.1 rate.cached billed.readsTerm billed'.readsTerm
  have writes := term hwritten bounded.write.1 rate.write billed.writesTerm billed'.writesTerm
  have output := term hcompletion bounded.output.1 rate.output billed.outputTerm billed'.outputTerm
  have read := sum billed.inputTerm.nonneg billed.readsTerm.nonneg input reads billed.readSum
    billed'.readSum
  have prompt := sum billed.readSum.nonneg billed.writesTerm.nonneg read writes billed.promptSum
    billed'.promptSum
  have total := sum billed.promptSum.nonneg billed.outputTerm.nonneg prompt output billed.totalSum
    billed'.totalSum
  refine fitDecimal_mono (div_nonneg billed.totalSum.nonneg (by norm_num)) ?_ billed.divided
    billed'.divided
  gcongr

/-- What is lost over a whole bill is less than a hundred-thousandth of a cent. -/
theorem bill_error (billed : Billed rates fresh cached written completion cost)
    (small : rates.exactBill fresh cached written completion ≤ 75000000000000000000000000) :
    |cost - rates.exactBill fresh cached written completion / 1000000| ≤ 1 / 20000000 := by
  obtain ⟨input, reads, read, writes, prompt, output, total, inputTerm, readsTerm, readSum,
    writesTerm, promptSum, outputTerm, totalSum, divided⟩ := billed
  have h₁ := abs_le.mp inputTerm.error
  have h₂ := abs_le.mp readsTerm.error
  have h₃ := abs_le.mp readSum.error
  have h₄ := abs_le.mp writesTerm.error
  have h₅ := abs_le.mp promptSum.error
  have h₆ := abs_le.mp outputTerm.error
  have h₇ := abs_le.mp totalSum.error
  have share : total / 1000000 ≤ 75000000000000000001 := by
    rw [div_le_iff₀ (by norm_num)]
    unfold exactBill at small
    linarith [h₁.2, h₂.2, h₃.2, h₄.2, h₅.2, h₆.2, h₇.2]
  have lost := fitDecimal_error (div_nonneg totalSum.nonneg (by norm_num)) divided
  have lost' : 5 * (total / 1000000) / decimalMax + 1 / 10 ^ 28 ≤ 1 / 100000000 := by
    have ratio : 5 * (total / 1000000) / decimalMax ≤ 5 * 75000000000000000001 / decimalMax := by
      unfold decimalMax
      gcongr
    have room : (5 : ℚ) * 75000000000000000001 / decimalMax + 1 / 10 ^ 28 ≤ 1 / 100000000 := by
      norm_num [decimalMax]
    linarith
  have last := abs_le.mp (lost.trans lost')
  unfold exactBill
  rw [abs_le]
  constructor <;> linarith [h₁.1, h₁.2, h₂.1, h₂.2, h₃.1, h₃.2, h₄.1, h₄.2, h₅.1, h₅.2, h₆.1,
    h₆.2, h₇.1, h₇.2, last.1, last.2]

end ModelRates

/-! ## Bills nothing is rounded in -/

/-- A nonnegative value of few places that stays in range is kept as it is. -/
theorem fitDecimal_places {x : Decimal} (places : Nat) (few : places ≤ 28) (nonneg : 0 ≤ x)
    (whole : ∃ n : ℤ, x * 10 ^ places = n) (fits : x * 10 ^ places ≤ decimalMax) :
    fitDecimal x = some x := by
  obtain ⟨n, integral⟩ := whole
  refine fitDecimal_exact few integral ?_
  rw [← integral, abs_of_nonneg (by positivity)]
  exact fits

namespace ModelRates

variable {rates : ModelRates} {fresh cached written completion places : Nat}

/-- A bill that fits 96 bits at the places its rates have is kept whole. -/
theorem bill_exact (bounded : rates.Bounded) (few : places ≤ 22) (atScale : rates.AtScale places)
    (fits : rates.exactBill fresh cached written completion * 10 ^ places ≤ decimalMax) :
    rates.bill fresh cached written completion =
      some (rates.exactBill fresh cached written completion / 1000000) := by
  obtain ⟨input, hinput⟩ := atScale.input
  obtain ⟨output, houtput⟩ := atScale.output
  obtain ⟨read, hread⟩ := atScale.cached
  obtain ⟨write, hwrite⟩ := atScale.write
  have unit : (0 : ℚ) < 10 ^ places := by positivity
  have x₁ : 0 ≤ (fresh : ℚ) * rates.inputRate := mul_nonneg (Nat.cast_nonneg _) bounded.input.1
  have x₂ : 0 ≤ (cached : ℚ) * rates.cachedRate := mul_nonneg (Nat.cast_nonneg _) bounded.cached.1
  have x₃ : 0 ≤ (written : ℚ) * rates.writeRate := mul_nonneg (Nat.cast_nonneg _) bounded.write.1
  have x₄ : 0 ≤ (completion : ℚ) * rates.outputRate :=
    mul_nonneg (Nat.cast_nonneg _) bounded.output.1
  -- every partial result is a part of the bill, and has the places of the rates
  have keep : ∀ {x : ℚ} (n : ℤ), 0 ≤ x → x * 10 ^ places = n →
      x ≤ rates.exactBill fresh cached written completion → fitDecimal x = some x := by
    intro x n nonneg integral part
    refine fitDecimal_places places (by omega) nonneg ⟨n, integral⟩ ?_
    exact (mul_le_mul_of_nonneg_right part unit.le).trans fits
  have whole₁ : (fresh : ℚ) * rates.inputRate * 10 ^ places = (fresh * input : ℤ) := by
    rw [mul_assoc, hinput]
    push_cast
    rfl
  have whole₂ : (cached : ℚ) * rates.cachedRate * 10 ^ places = (cached * read : ℤ) := by
    rw [mul_assoc, hread]
    push_cast
    rfl
  have whole₃ : (written : ℚ) * rates.writeRate * 10 ^ places = (written * write : ℤ) := by
    rw [mul_assoc, hwrite]
    push_cast
    rfl
  have whole₄ : (completion : ℚ) * rates.outputRate * 10 ^ places = (completion * output : ℤ) := by
    rw [mul_assoc, houtput]
    push_cast
    rfl
  have sum₂ := congrArg₂ (· + ·) whole₁ whole₂
  simp only [← add_mul, ← Int.cast_add] at sum₂
  have sum₃ := congrArg₂ (· + ·) sum₂ whole₃
  simp only [← add_mul, ← Int.cast_add] at sum₃
  have sum₄ := congrArg₂ (· + ·) sum₃ whole₄
  simp only [← add_mul, ← Int.cast_add] at sum₄
  have term₁ := keep _ x₁ whole₁ (by unfold exactBill; linarith)
  have term₂ := keep _ x₂ whole₂ (by unfold exactBill; linarith)
  have part₂ := keep _ (add_nonneg x₁ x₂) sum₂ (by unfold exactBill; linarith)
  have term₃ := keep _ x₃ whole₃ (by unfold exactBill; linarith)
  have part₃ := keep _ (add_nonneg (add_nonneg x₁ x₂) x₃) sum₃ (by unfold exactBill; linarith)
  have term₄ := keep _ x₄ whole₄ (by unfold exactBill; linarith)
  have all := keep _ (add_nonneg (add_nonneg (add_nonneg x₁ x₂) x₃) x₄) sum₄
    (by unfold exactBill; linarith)
  -- a millionth has six places more
  have sixMore : rates.exactBill fresh cached written completion / 1000000 * 10 ^ (places + 6) =
      rates.exactBill fresh cached written completion * 10 ^ places := by
    rw [pow_add]
    ring
  have divided : fitDecimal (rates.exactBill fresh cached written completion / 1000000) =
      some (rates.exactBill fresh cached written completion / 1000000) := by
    refine fitDecimal_places (places + 6) (by omega) ?_ ⟨_, sixMore.trans sum₄⟩
      (sixMore.le.trans fits)
    unfold exactBill
    positivity
  simp only [bill, decimalMul, decimalAdd, decimalDiv, term₁, term₂, part₂, term₃, part₃, term₄,
    all, bind_eq_bind, bind_some]
  exact divided

end ModelRates

/-! ## A validated table -/

/-- The parts of a prompt, and its completion, as a bill counts them. -/
theorem OpenAiUsage.Counted.split (counted : usage.Counted) :
    usage.split.fresh ≤ u64Max ∧ usage.split.cached ≤ u64Max ∧ usage.split.written ≤ u64Max := by
  have whole := usage.split.whole
  have prompt := counted.prompt
  omega

theorem roundedUsageCost_billed (priced : rates.Priced) (counted : usage.Counted) :
    ∃ cost, roundedUsageCost rates usage = some cost ∧
      Nonempty (Billed rates usage.split.fresh usage.split.cached usage.split.written
        usage.completionTokens cost) := by
  obtain ⟨hfresh, hcached, hwritten⟩ := counted.split
  obtain ⟨cost, billed, kept⟩ :=
    priced.bounded.billed hfresh hcached hwritten counted.completion
  exact ⟨cost, (roundedUsageCost_eq priced usage).trans billed, kept⟩

/-- No part of a prompt shrinks when the prompt grows at the same cache counts. -/
theorem split_mono {longer : OpenAiUsage}
    (sameCached : usage.cachedInputTokens = longer.cachedInputTokens)
    (sameWritten : usage.cacheWriteTokens = longer.cacheWriteTokens)
    (prompt : usage.promptTokens ≤ longer.promptTokens) :
    usage.split.fresh ≤ longer.split.fresh ∧ usage.split.cached ≤ longer.split.cached ∧
      usage.split.written ≤ longer.split.written := by
  simp only [OpenAiUsage.split, ← sameCached, ← sameWritten]
  omega

theorem ModelRates.AtMost.refl (rates : ModelRates) : rates.AtMost rates :=
  ⟨le_refl _, le_refl _, le_refl _, le_refl _⟩

/-- A table whose billed rates `billable_rate` takes prices every usage: no operation
    leaves the decimal range, the prompt is split into three parts that make it up, each
    at most what was reported for it, and neither a longer completion nor, at the same
    cache counts, a longer prompt costs less. -/
theorem validated_rates_always_bill {rates : ModelRates} (priced : rates.Priced)
    {usage : OpenAiUsage} (counted : usage.Counted) :
    ∃ cost, roundedUsageCost rates usage = some cost ∧
      (∃ fresh cached written, fresh + cached + written = usage.promptTokens ∧
        cached ≤ usage.cachedInputTokens ∧ written ≤ usage.cacheWriteTokens ∧
        rates.bill fresh cached written usage.completionTokens = some cost) ∧
      ∀ longer : OpenAiUsage, longer.Counted →
        usage.cachedInputTokens = longer.cachedInputTokens →
        usage.cacheWriteTokens = longer.cacheWriteTokens →
        usage.promptTokens ≤ longer.promptTokens →
        usage.completionTokens ≤ longer.completionTokens →
        ∃ dearer, roundedUsageCost rates longer = some dearer ∧ cost ≤ dearer := by
  obtain ⟨cost, hcost, ⟨billed⟩⟩ := roundedUsageCost_billed priced counted
  refine ⟨cost, hcost, ?_, ?_⟩
  · refine ⟨usage.split.fresh, usage.split.cached, usage.split.written, ?_, min_le_left _ _,
      min_le_left _ _, (roundedUsageCost_eq priced usage).symm.trans hcost⟩
    have whole := usage.split.whole
    omega
  · intro longer counted' sameCached sameWritten prompt completion
    obtain ⟨dearer, hdearer, ⟨billed'⟩⟩ := roundedUsageCost_billed priced counted'
    obtain ⟨hfresh, hcached, hwritten⟩ := split_mono sameCached sameWritten prompt
    exact ⟨dearer, hdearer, ModelRates.bill_mono billed billed' priced.bounded (.refl rates)
      hfresh hcached hwritten completion⟩

/-- The dearest table the catalog takes, and the longest usage a wire can carry. -/
def dearestRates : ModelRates where
  inputPerMtok := some 1000000
  outputPerMtok := some 1000000
  cachedInputPerMtok := none
  cacheWritePerMtok := none

def longestUsage : OpenAiUsage where
  promptTokens := u64Max
  completionTokens := u64Max
  totalTokens := u64Max
  promptTokensDetails := some { cachedTokens := u64Max, cacheWriteTokens := u64Max }

theorem validated_rates_always_bill_longest :
    ∃ cost, roundedUsageCost dearestRates longestUsage = some cost := by
  have priced : dearestRates.Priced := ⟨by decide +kernel, by decide +kernel, by decide +kernel,
    by decide +kernel⟩
  have counted : longestUsage.Counted := ⟨le_refl _, le_refl _⟩
  obtain ⟨cost, hcost, -⟩ := validated_rates_always_bill priced counted
  exact ⟨cost, hcost⟩

end ZeroRouter
