import ZeroRouter.Proofs.Bill

/-!
# What a cold reservation covers

The reservation's rates are the dearest of every band, its prompt rate the dearest any
prompt token could be billed at.  Exactly computed, no settlement costs more.  The bill
is rounded at 96 bits, though, and a prompt split over the cache is rounded part by part:
past the point where the reservation's own bill fits, the last place may go either way.
-/

namespace ZeroRouter

namespace ModelRates

/-- Every rate a table declares or falls back to. -/
structure Each (rates : ModelRates) (P : Decimal → Prop) : Prop where
  input : ∀ rate, rates.inputPerMtok = some rate → P rate
  output : ∀ rate, rates.outputPerMtok = some rate → P rate
  cached : ∀ rate, rates.effectiveCachedInputPerMtok = some rate → P rate
  write : ∀ rate, rates.effectiveCacheWritePerMtok = some rate → P rate

variable {rates : ModelRates} {P : Decimal → Prop}

theorem getD_of_each {rate : Option Decimal} (zero : P 0) (h : ∀ r, rate = some r → P r) :
    P (rate.getD 0) := by
  cases rate with
  | none => exact zero
  | some r => exact h r rfl

theorem Each.billed (each : rates.Each P) (zero : P 0) :
    P rates.inputRate ∧ P rates.outputRate ∧ P rates.cachedRate ∧ P rates.writeRate :=
  ⟨getD_of_each zero each.input, getD_of_each zero each.output, getD_of_each zero each.cached,
    getD_of_each zero each.write⟩

theorem Each.of_rates (input : P rates.inputRate) (output : P rates.outputRate)
    (cached : P rates.cachedRate) (write : P rates.writeRate) : rates.Each P := by
  refine ⟨?_, ?_, ?_, ?_⟩
  · intro rate h
    rwa [inputRate, h] at input
  · intro rate h
    rwa [outputRate, h] at output
  · intro rate h
    rwa [cachedRate, h] at cached
  · intro rate h
    rwa [writeRate, h] at write

end ModelRates

/-- The dearer of two rates is one of them. -/
theorem dearest_eq_some {a b : Option Decimal} {rate : Decimal} (h : dearest a b = some rate) :
    a = some rate ∨ b = some rate := by
  cases a with
  | none =>
      cases b with
      | none => cases h
      | some y => exact .inr h
  | some x =>
      cases b with
      | none => exact .inl h
      | some y =>
          simp only [dearest, Option.some.injEq] at h
          rcases max_choice x y with left | right
          · exact .inl (by rw [← h, left])
          · exact .inr (by rw [← h, right])

namespace RateSchedule

variable {schedule : RateSchedule} {P : Decimal → Prop}

theorem dearestOf_each {pick : ModelRates → Option Decimal}
    (each : ∀ table ∈ schedule.tables, ∀ rate, pick table = some rate → P rate) (rate : Decimal)
    (h : schedule.dearestOf pick = some rate) : P rate := by
  rcases foldl_max_eq_some h with none | listed
  · cases none
  · obtain ⟨table, mem, picked⟩ := List.mem_filterMap.mp listed
    exact each table mem rate picked

/-- The worst case bills no rate that no table bills. -/
theorem worstCase_each (each : ∀ table ∈ schedule.tables, table.Each P) :
    schedule.worstCase.Each P := by
  unfold worstCase
  by_cases flat : schedule.conditional.isEmpty = true
  · rw [if_pos flat]
    exact each _ List.mem_cons_self
  · rw [if_neg flat]
    have input := dearestOf_each fun table mem => (each table mem).input
    refine ⟨input, dearestOf_each fun table mem => (each table mem).output, ?_, ?_⟩
    · intro rate h
      rcases Option.or_eq_some_iff.mp h with own | ⟨-, fallback⟩
      · exact dearestOf_each (fun table mem => (each table mem).cached) rate own
      · exact input rate fallback
    · intro rate h
      rcases Option.or_eq_some_iff.mp h with own | ⟨-, fallback⟩
      · exact dearestOf_each (fun table mem => (each table mem).write) rate own
      · exact input rate fallback

/-- Nor does the reservation. -/
theorem reservationRates_each (each : ∀ table ∈ schedule.tables, table.Each P) :
    schedule.reservationRates.Each P := by
  have worst := worstCase_each each
  have input : ∀ rate, schedule.worstCase.dearestPromptPerMtok = some rate → P rate := by
    intro rate h
    rcases dearest_eq_some h with prompt | write
    · rcases dearest_eq_some prompt with fresh | cached
      · exact worst.input rate fresh
      · exact worst.cached rate cached
    · exact worst.write rate write
  refine ⟨input, worst.output, ?_, ?_⟩
  · intro rate h
    rcases Option.or_eq_some_iff.mp h with own | ⟨-, fallback⟩
    · exact worst.cached rate (Option.or_eq_some_iff.mpr (.inl own))
    · exact input rate fallback
  · intro rate h
    rcases Option.or_eq_some_iff.mp h with own | ⟨-, fallback⟩
    · exact worst.write rate (Option.or_eq_some_iff.mpr (.inl own))
    · exact input rate fallback

theorem reservationRates_bounded (valid : schedule.Valid) :
    schedule.reservationRates.Bounded := by
  have each : ∀ table ∈ schedule.tables,
      table.Each fun rate => 0 ≤ rate ∧ rate ≤ maxRatePerMtok := by
    intro table mem
    have bounded := (valid table mem).priced.bounded
    exact .of_rates bounded.input bounded.output bounded.cached bounded.write
  obtain ⟨input, output, cached, write⟩ :=
    (reservationRates_each each).billed ⟨le_refl _, by norm_num [maxRatePerMtok]⟩
  exact ⟨input, output, cached, write⟩

theorem reservationRates_atScale {places : Nat}
    (atScale : ∀ table ∈ schedule.tables, table.AtScale places) :
    schedule.reservationRates.AtScale places := by
  have each : ∀ table ∈ schedule.tables,
      table.Each fun rate => ∃ n : ℤ, rate * 10 ^ places = n := by
    intro table mem
    have scale := atScale table mem
    exact .of_rates scale.input scale.output scale.cached scale.write
  obtain ⟨input, output, cached, write⟩ := (reservationRates_each each).billed ⟨0, by simp⟩
  exact ⟨input, output, cached, write⟩

end RateSchedule

theorem ModelRates.Bounded.priced {rates : ModelRates} (bounded : rates.Bounded) :
    rates.Priced := by
  have input := billableRate_of_bounds bounded.input
  have output := billableRate_of_bounds bounded.output
  have cached := billableRate_of_bounds bounded.cached
  have write := billableRate_of_bounds bounded.write
  exact ⟨by simp [input], by simp [output], by simp [cached], by simp [write]⟩

/-- The exact bill of a wire's counts stays far inside the decimal range. -/
theorem ModelRates.Bounded.exactBill_small {rates : ModelRates} (bounded : rates.Bounded)
    {fresh cached written completion : Nat} (hfresh : fresh ≤ u64Max) (hcached : cached ≤ u64Max)
    (hwritten : written ≤ u64Max) (hcompletion : completion ≤ u64Max) :
    rates.exactBill fresh cached written completion ≤ 75000000000000000000000000 := by
  have h₁ := (checkedMul_of_bounds hfresh bounded.input).2.2
  have h₂ := (checkedMul_of_bounds hcached bounded.cached).2.2
  have h₃ := (checkedMul_of_bounds hwritten bounded.write).2.2
  have h₄ := (checkedMul_of_bounds hcompletion bounded.output).2.2
  have ceiling : (u64Max : ℚ) * maxRatePerMtok * 4 ≤ 75000000000000000000000000 := by
    norm_num [u64Max, maxRatePerMtok]
  unfold exactBill
  linarith

section Cold

variable {schedule : RateSchedule} {bound usage : OpenAiUsage}

/-- A bound without cache detail is billed as fresh. -/
theorem split_plain (plain : bound.promptTokensDetails = none) :
    bound.split.fresh = bound.promptTokens ∧ bound.split.cached = 0 ∧ bound.split.written = 0 := by
  simp [OpenAiUsage.split, OpenAiUsage.cachedInputTokens, OpenAiUsage.cacheWriteTokens, plain]

/-- Before anything is rounded, no settlement within the bounds costs more. -/
theorem exactBill_le_reservation (valid : schedule.Valid)
    (plain : bound.promptTokensDetails = none)
    (prompt : usage.promptTokens ≤ bound.promptTokens)
    (completion : usage.completionTokens ≤ bound.completionTokens) :
    (schedule.atPromptTokens usage.promptTokens).exactBill usage.split.fresh usage.split.cached
        usage.split.written usage.completionTokens ≤
      schedule.reservationRates.exactBill bound.split.fresh bound.split.cached
        bound.split.written bound.completionTokens := by
  have reserved := schedule.reservationRates_bounded valid
  have nonneg : schedule.reservationRates.Nonneg :=
    ⟨reserved.input.1, reserved.output.1, reserved.cached.1, reserved.write.1⟩
  obtain ⟨input, cached, write, output⟩ := schedule.rates_le_reservationRates
    (schedule.atPromptTokens_mem usage.promptTokens) nonneg
  obtain ⟨fresh₀, cached₀, written₀⟩ := split_plain plain
  have whole : (usage.split.fresh : ℚ) + usage.split.cached + usage.split.written ≤
      bound.promptTokens := by
    have := usage.split.whole
    exact_mod_cast (by omega : usage.split.fresh + usage.split.cached + usage.split.written ≤
      bound.promptTokens)
  have longer : (usage.completionTokens : ℚ) ≤ bound.completionTokens := by
    exact_mod_cast completion
  have term₁ := mul_le_mul_of_nonneg_left input (Nat.cast_nonneg (α := ℚ) usage.split.fresh)
  have term₂ := mul_le_mul_of_nonneg_left cached (Nat.cast_nonneg (α := ℚ) usage.split.cached)
  have term₃ := mul_le_mul_of_nonneg_left write (Nat.cast_nonneg (α := ℚ) usage.split.written)
  have term₄ := mul_le_mul_of_nonneg_left output (Nat.cast_nonneg (α := ℚ) usage.completionTokens)
  have prompts := mul_le_mul_of_nonneg_right whole reserved.input.1
  have outputs := mul_le_mul_of_nonneg_right longer reserved.output.1
  unfold ModelRates.exactBill
  rw [fresh₀, cached₀, written₀, Nat.cast_zero, zero_mul, zero_mul]
  linarith

/-- Both sides of a cold reservation are priced.  The settled cost is at most the
    reserved one whenever the reservation's own bill fits 96 bits at the places the
    schedule's rates have, so that nothing is rounded; and whatever is rounded, it
    exceeds it by at most a ten-millionth of a dollar. -/
theorem cold_reservation_covers (valid : schedule.Valid) (counted : bound.Counted)
    (plain : bound.promptTokensDetails = none)
    (prompt : usage.promptTokens ≤ bound.promptTokens)
    (completion : usage.completionTokens ≤ bound.completionTokens) :
    ∃ settled reserved,
      roundedUsageCost (schedule.atPromptTokens usage.promptTokens) usage = some settled ∧
      roundedUsageCost schedule.reservationRates bound = some reserved ∧
      (∀ places ≤ 22, (∀ table ∈ schedule.tables, table.AtScale places) →
        (bound.promptTokens * schedule.reservationRates.inputRate +
          bound.completionTokens * schedule.reservationRates.outputRate) * 10 ^ places ≤
            decimalMax →
        settled ≤ reserved) ∧
      settled ≤ reserved + 1 / 10000000 := by
  have settles := schedule.atPromptTokens_mem usage.promptTokens
  have priced := (valid _ settles).priced
  have reserves := schedule.reservationRates_bounded valid
  have counted' : usage.Counted :=
    ⟨prompt.trans counted.prompt, completion.trans counted.completion⟩
  obtain ⟨settled, hsettled, ⟨billed⟩⟩ := roundedUsageCost_billed priced counted'
  obtain ⟨reserved, hreserved, ⟨held⟩⟩ := roundedUsageCost_billed reserves.priced counted
  have least := exactBill_le_reservation valid plain prompt completion
  obtain ⟨fresh₀, cached₀, written₀⟩ := split_plain plain
  refine ⟨settled, reserved, hsettled, hreserved, ?_, ?_⟩
  · intro places few atScale fits
    have unit : (0 : ℚ) ≤ 10 ^ places := by positivity
    have whole : schedule.reservationRates.exactBill bound.split.fresh bound.split.cached
        bound.split.written bound.completionTokens =
          bound.promptTokens * schedule.reservationRates.inputRate +
            bound.completionTokens * schedule.reservationRates.outputRate := by
      unfold ModelRates.exactBill
      rw [fresh₀, cached₀, written₀, Nat.cast_zero, zero_mul, zero_mul, add_zero, add_zero]
    rw [← whole] at fits
    have fits' := (mul_le_mul_of_nonneg_right least unit).trans fits
    rw [roundedUsageCost_eq priced,
      ModelRates.bill_exact priced.bounded few (atScale _ settles) fits'] at hsettled
    rw [roundedUsageCost_eq reserves.priced,
      ModelRates.bill_exact reserves few (schedule.reservationRates_atScale atScale) fits]
      at hreserved
    cases hsettled
    cases hreserved
    gcongr
  · obtain ⟨hfresh, hcached, hwritten⟩ := counted'.split
    obtain ⟨kfresh, kcached, kwritten⟩ := counted.split
    have rounded := ModelRates.bill_error billed
      (priced.bounded.exactBill_small hfresh hcached hwritten counted'.completion)
    have under := ModelRates.bill_error held
      (reserves.exactBill_small kfresh kcached kwritten counted.completion)
    have high := (abs_le.mp rounded).2
    have low := (abs_le.mp under).1
    linarith

end Cold

/-! Half the prompt is read from the cache at the input rate, which has 15 places.  Each
half's bill is rounded up to the 14th; the reservation's, of the whole, needs no rounding. -/

def finelyPriced : RateSchedule := .flat
  { inputPerMtok := some (999969482421875 / 1000000000000000)
    outputPerMtok := some 1
    cachedInputPerMtok := none
    cacheWritePerMtok := none }

def halfCached : OpenAiUsage where
  promptTokens := 200000000000002
  completionTokens := 0
  totalTokens := 200000000000002
  promptTokensDetails := some { cachedTokens := 100000000000001, cacheWriteTokens := 0 }

def halfCachedBound : OpenAiUsage := { halfCached with promptTokensDetails := none }

theorem finelyPriced_valid : finelyPriced.Valid := by
  intro table mem
  have base : table = finelyPriced.base := RateSchedule.tables_of_flat rfl mem
  subst base
  refine ⟨⟨_, rfl⟩, ⟨_, rfl⟩, ?_, ?_, ?_, ?_⟩
  · intro rate h
    cases h
    constructor <;> norm_num [maxRatePerMtok]
  · intro rate h
    cases h
    constructor <;> norm_num [maxRatePerMtok]
  · intro rate h
    cases h
  · intro rate h
    cases h

theorem cold_reservation_undershoots :
    ¬ ∀ (schedule : RateSchedule) (bound usage : OpenAiUsage), schedule.Valid → bound.Counted →
      bound.promptTokensDetails = none → usage.promptTokens ≤ bound.promptTokens →
      usage.completionTokens ≤ bound.completionTokens → ∀ settled reserved,
      roundedUsageCost (schedule.atPromptTokens usage.promptTokens) usage = some settled →
      roundedUsageCost schedule.reservationRates bound = some reserved → settled ≤ reserved := by
  intro claim
  have settled : roundedUsageCost (finelyPriced.atPromptTokens halfCached.promptTokens) halfCached =
      some (19999389648437699993896484376 / 100000000000000000000) := by decide +kernel
  have reserved : roundedUsageCost finelyPriced.reservationRates halfCachedBound =
      some (19999389648437699993896484375 / 100000000000000000000) := by decide +kernel
  have covered := claim finelyPriced halfCachedBound halfCached finelyPriced_valid
    ⟨by decide, by decide⟩ rfl (le_refl _) (le_refl _) _ _ settled reserved
  norm_num at covered

theorem cold_reservation_covers_halfCached : ∃ settled reserved,
    roundedUsageCost (finelyPriced.atPromptTokens halfCached.promptTokens) halfCached =
      some settled ∧
    roundedUsageCost finelyPriced.reservationRates halfCachedBound = some reserved ∧
    settled ≤ reserved + 1 / 10000000 := by
  obtain ⟨settled, reserved, hsettled, hreserved, -, close⟩ :=
    cold_reservation_covers finelyPriced_valid
      (show halfCachedBound.Counted from ⟨by decide, by decide⟩) rfl
      (show halfCached.promptTokens ≤ halfCachedBound.promptTokens from le_refl _) (le_refl _)
  exact ⟨settled, reserved, hsettled, hreserved, close⟩

end ZeroRouter
