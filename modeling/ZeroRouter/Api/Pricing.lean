import ZeroRouter.Db.Record
import Mathlib.Tactic.NormNum
import Mathlib.Tactic.Linarith
import Mathlib.Tactic.Ring

/-!
# What a usage costs

`provider.rs` `ModelRates` and `RateSchedule`, and `openai.rs` `usage_cost`: a
schedule may reprice a whole request past a prompt-size threshold, a reservation
is sized at the dearest rate of every dimension, and a settled usage is priced in
the band its measured prompt selects.

A rate is configured as an `f64`; the model holds the decimal it meters at.
-/

namespace ZeroRouter

variable {schedule : RateSchedule} {a cost : Decimal} {table : ModelRates} {usage : OpenAiUsage}

/-- `provider.rs` `ModelRates`, in USD per million tokens. -/
structure ModelRates where
  inputPerMtok : Option Decimal
  outputPerMtok : Option Decimal
  cachedInputPerMtok : Option Decimal
  cacheWritePerMtok : Option Decimal
  deriving DecidableEq, Repr

/-- The rate a prompt token read from the cache is billed at. -/
def ModelRates.effectiveCachedInputPerMtok (rates : ModelRates) : Option Decimal :=
  rates.cachedInputPerMtok.or rates.inputPerMtok

/-- The rate a prompt token written into the cache is billed at. -/
def ModelRates.effectiveCacheWritePerMtok (rates : ModelRates) : Option Decimal :=
  rates.cacheWritePerMtok.or rates.inputPerMtok

/-- The dearer of two rates, one of which may be absent. -/
def dearest : Option Decimal → Option Decimal → Option Decimal
  | some a, some b => some (max a b)
  | rate, none => rate
  | none, rate => rate

/-- `ModelRates::dearest_prompt_per_mtok`. -/
def ModelRates.dearestPromptPerMtok (rates : ModelRates) : Option Decimal :=
  dearest (dearest rates.inputPerMtok rates.effectiveCachedInputPerMtok)
    rates.effectiveCacheWritePerMtok

/-- `provider.rs` `ConditionalRate`: the table that applies from a prompt size on. -/
structure ConditionalRate where
  minPromptTokens : Nat
  rates : ModelRates
  deriving DecidableEq, Repr

/-- `provider.rs` `RateSchedule`. -/
structure RateSchedule where
  base : ModelRates
  conditional : List ConditionalRate
  deriving DecidableEq, Repr

namespace RateSchedule

def flat (base : ModelRates) : RateSchedule := { base, conditional := [] }

def isFlat (schedule : RateSchedule) : Bool := schedule.conditional.isEmpty

/-- Every table the schedule can apply, base first. -/
def tables (schedule : RateSchedule) : List ModelRates :=
  schedule.base :: schedule.conditional.map (·.rates)

/-- `Iterator::max_by_key` on the thresholds: the last of the greatest. -/
def highestThreshold : List ConditionalRate → Option ConditionalRate
  | [] => none
  | table :: rest =>
      match highestThreshold rest with
      | none => some table
      | some later =>
          if table.minPromptTokens ≤ later.minPromptTokens then some later else some table

/-- `RateSchedule::at_prompt_tokens`. -/
def atPromptTokens (schedule : RateSchedule) (promptTokens : Nat) : ModelRates :=
  if schedule.conditional.isEmpty then schedule.base
  else
    (highestThreshold
      (schedule.conditional.filter fun table => table.minPromptTokens ≤ promptTokens)).elim
      schedule.base (·.rates)

/-- The dearest rate `pick` reads off any table. -/
def dearestOf (schedule : RateSchedule) (pick : ModelRates → Option Decimal) : Option Decimal :=
  (schedule.tables.filterMap pick).foldl (fun found rate => some (found.elim rate (max · rate)))
    none

/-- `RateSchedule::worst_case`. -/
def worstCase (schedule : RateSchedule) : ModelRates :=
  if schedule.conditional.isEmpty then schedule.base
  else
    { inputPerMtok := schedule.dearestOf (·.inputPerMtok)
      outputPerMtok := schedule.dearestOf (·.outputPerMtok)
      cachedInputPerMtok := schedule.dearestOf ModelRates.effectiveCachedInputPerMtok
      cacheWritePerMtok := schedule.dearestOf ModelRates.effectiveCacheWritePerMtok }

/-- `RateSchedule::reservation_rates`. -/
def reservationRates (schedule : RateSchedule) : ModelRates :=
  { schedule.worstCase with inputPerMtok := schedule.worstCase.dearestPromptPerMtok }

end RateSchedule

/-- `openai.rs` `MAX_RATE_PER_MTOK`. -/
def maxRatePerMtok : Decimal := 1000000

/-- `openai.rs` `billable_rate`.  The rate is already the decimal it meters at, so
    the conversion's own failures (out of range, rounding to zero) do not arise. -/
def billableRate (rate : Decimal) : Option Decimal :=
  if 0 ≤ rate ∧ rate ≤ maxRatePerMtok then some rate else none

/-- `Decimal::checked_add`. -/
def Decimal.checkedAdd (a b : Decimal) : Option Decimal :=
  if |a + b| ≤ decimalMax then some (a + b) else none

/-- `openai.rs` `usage_cost`. -/
def usageCost (rates : ModelRates) (usage : OpenAiUsage) : Option Decimal := do
  let inputRate ← billableRate (rates.inputPerMtok.getD 0)
  let outputRate ← billableRate (rates.outputPerMtok.getD 0)
  let cachedRate ← billableRate (rates.cachedInputPerMtok.getD (rates.inputPerMtok.getD 0))
  let writeRate ← billableRate (rates.cacheWritePerMtok.getD (rates.inputPerMtok.getD 0))
  let cached := min usage.cachedInputTokens usage.promptTokens
  let written := min usage.cacheWriteTokens (usage.promptTokens - cached)
  let uncached := usage.promptTokens - cached - written
  let fresh ← checkedMul uncached inputRate
  let reads ← checkedMul cached cachedRate
  let prompt ← Decimal.checkedAdd fresh reads
  let writes ← checkedMul written writeRate
  let prompt ← Decimal.checkedAdd prompt writes
  let output ← checkedMul usage.completionTokens outputRate
  let total ← Decimal.checkedAdd prompt output
  return total / 1000000

/-! ## What a cost comes to -/

theorem billableRate_eq_some {rate billed : Decimal} (h : billableRate rate = some billed) :
    billed = rate ∧ 0 ≤ rate := by
  unfold billableRate at h
  split at h
  · next bounds => exact ⟨(Option.some.inj h).symm, bounds.1⟩
  · cases h

theorem checkedMul_eq_some {b product : Decimal} (h : checkedMul a b = some product) :
    product = a * b := by
  unfold checkedMul at h
  split at h
  · exact (Option.some.inj h).symm
  · cases h

theorem Decimal.checkedAdd_eq_some {b total : Decimal} (h : Decimal.checkedAdd a b = some total) :
    total = a + b := by
  unfold Decimal.checkedAdd at h
  split at h
  · exact (Option.some.inj h).symm
  · cases h

/-- The prompt of a usage as it is billed: read from the cache, written into it,
    and fresh. -/
structure PromptSplit (usage : OpenAiUsage) where
  cached : Nat
  written : Nat
  fresh : Nat
  whole : cached + written + fresh = usage.promptTokens

def OpenAiUsage.split (usage : OpenAiUsage) : PromptSplit usage where
  cached := min usage.cachedInputTokens usage.promptTokens
  written :=
    min usage.cacheWriteTokens
      (usage.promptTokens - min usage.cachedInputTokens usage.promptTokens)
  fresh :=
    usage.promptTokens - min usage.cachedInputTokens usage.promptTokens -
      min usage.cacheWriteTokens
        (usage.promptTokens - min usage.cachedInputTokens usage.promptTokens)
  whole := by omega

/-- The rates a table bills, with `usage_cost`'s fallbacks. -/
def ModelRates.inputRate (rates : ModelRates) : Decimal := rates.inputPerMtok.getD 0
def ModelRates.outputRate (rates : ModelRates) : Decimal := rates.outputPerMtok.getD 0
def ModelRates.cachedRate (rates : ModelRates) : Decimal :=
  rates.effectiveCachedInputPerMtok.getD 0
def ModelRates.writeRate (rates : ModelRates) : Decimal :=
  rates.effectiveCacheWritePerMtok.getD 0

theorem ModelRates.cachedRate_eq (rates : ModelRates) :
    rates.cachedRate = rates.cachedInputPerMtok.getD (rates.inputPerMtok.getD 0) := by
  unfold cachedRate effectiveCachedInputPerMtok
  cases rates.cachedInputPerMtok <;> simp

theorem ModelRates.writeRate_eq (rates : ModelRates) :
    rates.writeRate = rates.cacheWritePerMtok.getD (rates.inputPerMtok.getD 0) := by
  unfold writeRate effectiveCacheWritePerMtok
  cases rates.cacheWritePerMtok <;> simp

/-- A table none of whose billed rates is negative. -/
structure ModelRates.Nonneg (rates : ModelRates) : Prop where
  input : 0 ≤ rates.inputRate
  output : 0 ≤ rates.outputRate
  cached : 0 ≤ rates.cachedRate
  write : 0 ≤ rates.writeRate

/-- A usage that can be priced is priced at nonnegative rates, each part of the
    prompt at its own. -/
theorem usageCost_eq_some {rates : ModelRates} (h : usageCost rates usage = some cost) :
    rates.Nonneg ∧
      cost * 1000000 =
        usage.split.fresh * rates.inputRate + usage.split.cached * rates.cachedRate +
          usage.split.written * rates.writeRate + usage.completionTokens * rates.outputRate := by
  unfold usageCost at h
  simp only [Option.bind_eq_bind, Option.bind_eq_some_iff] at h
  obtain ⟨input, hinput, output, houtput, cachedAt, hcached, writeAt, hwrite, fresh, hfresh,
    reads, hreads, prompt, hprompt, writes, hwrites, prompt', hprompt', out, hout, total, htotal,
    hcost⟩ := h
  obtain ⟨rfl, hin⟩ := billableRate_eq_some hinput
  obtain ⟨rfl, hout'⟩ := billableRate_eq_some houtput
  obtain ⟨rfl, hca⟩ := billableRate_eq_some hcached
  obtain ⟨rfl, hwr⟩ := billableRate_eq_some hwrite
  rw [← ModelRates.cachedRate_eq] at hca hreads
  rw [← ModelRates.writeRate_eq] at hwr hwrites
  refine ⟨⟨hin, hout', hca, hwr⟩, ?_⟩
  have hcost := Option.some.inj hcost
  rw [← hcost, Decimal.checkedAdd_eq_some htotal, Decimal.checkedAdd_eq_some hprompt',
    Decimal.checkedAdd_eq_some hprompt,
    checkedMul_eq_some hfresh, checkedMul_eq_some hreads, checkedMul_eq_some hwrites,
    checkedMul_eq_some hout]
  simp only [OpenAiUsage.split, ModelRates.inputRate, ModelRates.outputRate]
  ring

theorem usageCost_nonneg {rates : ModelRates} (h : usageCost rates usage = some cost) :
    0 ≤ cost := by
  obtain ⟨hnonneg, hcost⟩ := usageCost_eq_some h
  have cast_nonneg : ∀ n : Nat, (0 : ℚ) ≤ n := fun n => Nat.cast_nonneg n
  have hfresh := mul_nonneg (cast_nonneg usage.split.fresh) hnonneg.input
  have hread := mul_nonneg (cast_nonneg usage.split.cached) hnonneg.cached
  have hstore := mul_nonneg (cast_nonneg usage.split.written) hnonneg.write
  have hwritten := mul_nonneg (cast_nonneg usage.completionTokens) hnonneg.output
  have : 0 ≤ cost * 1000000 := by
    rw [hcost]
    linarith
  linarith

/-! ## The reservation's rates bound every band's -/

theorem dearest_left {rates : Option Decimal} (others : Option Decimal) (h : rates = some a) :
    ∃ b, dearest rates others = some b ∧ a ≤ b := by
  subst h
  cases others with
  | none => exact ⟨a, rfl, le_refl a⟩
  | some b => exact ⟨max a b, rfl, le_max_left a b⟩

theorem dearest_right (rates : Option Decimal) {others : Option Decimal} (h : others = some a) :
    ∃ b, dearest rates others = some b ∧ a ≤ b := by
  subst h
  cases rates with
  | none => exact ⟨a, rfl, le_refl a⟩
  | some b => exact ⟨max b a, rfl, le_max_right b a⟩

/-- Folding a maximum never falls below what it started from or went through. -/
theorem foldl_max_spec (rates : List Decimal) (found : Option Decimal) :
    ∀ rate, found = some rate ∨ rate ∈ rates →
      ∃ top, rates.foldl (fun found rate => some (found.elim rate (max · rate))) found = some top ∧
        rate ≤ top := by
  induction rates generalizing found with
  | nil =>
      intro rate h
      rcases h with h | h
      · exact ⟨rate, h, le_refl rate⟩
      · cases h
  | cons first rest ih =>
      intro rate h
      rw [List.foldl_cons]
      have step : ∃ top, some (found.elim first (max · first)) = some top ∧
          (found = some rate ∨ rate = first → rate ≤ top) := by
        refine ⟨_, rfl, ?_⟩
        intro h
        rcases h with rfl | rfl
        · exact le_max_left rate first
        · cases found with
          | none => exact le_refl rate
          | some seen => exact le_max_right seen rate
      obtain ⟨top, htop, hle⟩ := step
      rcases h with h | h
      · obtain ⟨final, hfinal, hover⟩ := ih (some (found.elim first (max · first))) top (.inl htop)
        exact ⟨final, hfinal, (hle (.inl h)).trans hover⟩
      · rcases List.mem_cons.mp h with h | h
        · obtain ⟨final, hfinal, hover⟩ :=
            ih (some (found.elim first (max · first))) top (.inl htop)
          exact ⟨final, hfinal, (hle (.inr h)).trans hover⟩
        · exact ih _ rate (.inr h)

namespace RateSchedule

theorem highestThreshold_mem {tables : List ConditionalRate} {table : ConditionalRate}
    (h : highestThreshold tables = some table) : table ∈ tables := by
  induction tables generalizing table with
  | nil => cases h
  | cons first rest ih =>
      unfold highestThreshold at h
      cases hrest : highestThreshold rest with
      | none =>
          simp only [hrest, Option.some.injEq] at h
          simp [h]
      | some later =>
          simp only [hrest] at h
          split at h
          · cases h
            exact List.mem_cons_of_mem _ (ih hrest)
          · cases h
            simp

/-- The band of a prompt is one of the schedule's tables. -/
theorem atPromptTokens_mem (schedule : RateSchedule) (promptTokens : Nat) :
    schedule.atPromptTokens promptTokens ∈ schedule.tables := by
  unfold atPromptTokens
  split
  · exact List.mem_cons_self
  · cases h : highestThreshold
        (schedule.conditional.filter fun table => table.minPromptTokens ≤ promptTokens) with
    | none => exact List.mem_cons_self
    | some table =>
        have := (List.mem_filter.mp (highestThreshold_mem h)).1
        exact List.mem_cons_of_mem _ (List.mem_map_of_mem this)

/-- No table's rate exceeds the dearest. -/
theorem le_dearestOf {pick : ModelRates → Option Decimal} {rate : Decimal}
    (hmem : table ∈ schedule.tables) (hrate : pick table = some rate) :
    ∃ top, schedule.dearestOf pick = some top ∧ rate ≤ top :=
  foldl_max_spec _ none rate (.inr (List.mem_filterMap.mpr ⟨table, hmem, hrate⟩))

/-- A flat schedule has one table. -/
theorem tables_of_flat (h : schedule.conditional.isEmpty = true) (hmem : table ∈ schedule.tables) :
    table = schedule.base := by
  have : schedule.conditional = [] := List.isEmpty_iff.mp h
  simpa [tables, this] using hmem

/-- Every effective rate of a table is at most the worst case's. -/
theorem le_worstCase (hmem : table ∈ schedule.tables) :
    (∀ rate, table.inputPerMtok = some rate →
      ∃ top, schedule.worstCase.inputPerMtok = some top ∧ rate ≤ top) ∧
    (∀ rate, table.outputPerMtok = some rate →
      ∃ top, schedule.worstCase.outputPerMtok = some top ∧ rate ≤ top) ∧
    (∀ rate, table.effectiveCachedInputPerMtok = some rate →
      ∃ top, schedule.worstCase.effectiveCachedInputPerMtok = some top ∧ rate ≤ top) ∧
    (∀ rate, table.effectiveCacheWritePerMtok = some rate →
      ∃ top, schedule.worstCase.effectiveCacheWritePerMtok = some top ∧ rate ≤ top) := by
  unfold worstCase
  by_cases hflat : schedule.conditional.isEmpty = true
  · rw [if_pos hflat, tables_of_flat hflat hmem]
    exact ⟨fun rate h => ⟨rate, h, le_refl _⟩, fun rate h => ⟨rate, h, le_refl _⟩,
      fun rate h => ⟨rate, h, le_refl _⟩, fun rate h => ⟨rate, h, le_refl _⟩⟩
  · rw [if_neg hflat]
    refine ⟨fun rate h => le_dearestOf hmem h, fun rate h => le_dearestOf hmem h, ?_, ?_⟩
    · intro rate h
      obtain ⟨top, htop, hle⟩ := le_dearestOf hmem h
      exact ⟨top, by simp [ModelRates.effectiveCachedInputPerMtok, htop], hle⟩
    · intro rate h
      obtain ⟨top, htop, hle⟩ := le_dearestOf hmem h
      exact ⟨top, by simp [ModelRates.effectiveCacheWritePerMtok, htop], hle⟩

end RateSchedule

/-- A billed rate read off an optional one is bounded by another that has it. -/
theorem getD_le_getD {rate top : Option Decimal}
    (h : ∀ r, rate = some r → ∃ t, top = some t ∧ r ≤ t) (htop : 0 ≤ top.getD 0) :
    rate.getD 0 ≤ top.getD 0 := by
  cases rate with
  | none => exact htop
  | some r =>
      obtain ⟨t, rfl, hle⟩ := h r rfl
      exact hle

/-- The reservation's prompt rate is the dearest any prompt token of any band could
    be billed at, and its output rate the dearest output rate. -/
theorem RateSchedule.rates_le_reservationRates (hmem : table ∈ schedule.tables)
    (hnonneg : schedule.reservationRates.Nonneg) :
    table.inputRate ≤ schedule.reservationRates.inputRate ∧
      table.cachedRate ≤ schedule.reservationRates.inputRate ∧
      table.writeRate ≤ schedule.reservationRates.inputRate ∧
      table.outputRate ≤ schedule.reservationRates.outputRate := by
  obtain ⟨input, output, cached, write⟩ := schedule.le_worstCase hmem
  refine ⟨?_, ?_, ?_, getD_le_getD output hnonneg.output⟩
  all_goals refine getD_le_getD ?_ hnonneg.input
  all_goals intro rate h
  · obtain ⟨a, ha, hle⟩ := input rate h
    obtain ⟨b, hb, hle'⟩ := dearest_left schedule.worstCase.effectiveCachedInputPerMtok ha
    obtain ⟨c, hc, hle''⟩ := dearest_left schedule.worstCase.effectiveCacheWritePerMtok hb
    exact ⟨c, hc, hle.trans (hle'.trans hle'')⟩
  · obtain ⟨a, ha, hle⟩ := cached rate h
    obtain ⟨b, hb, hle'⟩ := dearest_right schedule.worstCase.inputPerMtok ha
    obtain ⟨c, hc, hle''⟩ := dearest_left schedule.worstCase.effectiveCacheWritePerMtok hb
    exact ⟨c, hc, hle.trans (hle'.trans hle'')⟩
  · obtain ⟨a, ha, hle⟩ := write rate h
    obtain ⟨c, hc, hle'⟩ := dearest_right
      (dearest schedule.worstCase.inputPerMtok schedule.worstCase.effectiveCachedInputPerMtok) ha
    exact ⟨c, hc, hle.trans hle'⟩

/-- A usage within the reserved bounds costs, in the band it lands in, at most what
    the bounds cost at the reservation's rates. -/
theorem usageCost_le_reservation {bound : OpenAiUsage} {reserved : Decimal}
    (hplain : bound.promptTokensDetails = none)
    (hprompt : usage.promptTokens ≤ bound.promptTokens)
    (houtput : usage.completionTokens ≤ bound.completionTokens)
    (hcost : usageCost (schedule.atPromptTokens usage.promptTokens) usage = some cost)
    (hreserved : usageCost schedule.reservationRates bound = some reserved) :
    cost ≤ reserved := by
  obtain ⟨-, hcost⟩ := usageCost_eq_some hcost
  obtain ⟨hnonneg, hreserved⟩ := usageCost_eq_some hreserved
  obtain ⟨hinput, hcached, hwrite, hout⟩ :=
    schedule.rates_le_reservationRates (schedule.atPromptTokens_mem usage.promptTokens) hnonneg
  -- Without cache details the whole of the bound is billed as fresh.
  have hcached₀ : bound.split.cached = 0 := by
    simp [OpenAiUsage.split, OpenAiUsage.cachedInputTokens, hplain]
  have hwritten₀ : bound.split.written = 0 := by
    simp [OpenAiUsage.split, OpenAiUsage.cacheWriteTokens, hplain]
  have hfresh₀ : bound.split.fresh = bound.promptTokens := by
    have := bound.split.whole
    omega
  rw [hcached₀, hwritten₀, hfresh₀] at hreserved
  simp only [Nat.cast_zero, zero_mul, add_zero] at hreserved
  have hwhole : (usage.split.cached : ℚ) + usage.split.written + usage.split.fresh ≤
      bound.promptTokens := by
    have := usage.split.whole
    exact_mod_cast (by omega : usage.split.cached + usage.split.written + usage.split.fresh ≤
      bound.promptTokens)
  have houtput' : (usage.completionTokens : ℚ) ≤ bound.completionTokens := by exact_mod_cast houtput
  have cast_nonneg : ∀ n : Nat, (0 : ℚ) ≤ n := fun n => Nat.cast_nonneg n
  have hfresh := mul_le_mul_of_nonneg_left hinput (cast_nonneg usage.split.fresh)
  have hread := mul_le_mul_of_nonneg_left hcached (cast_nonneg usage.split.cached)
  have hstore := mul_le_mul_of_nonneg_left hwrite (cast_nonneg usage.split.written)
  have hwritten :=
    mul_le_mul_of_nonneg_left hout (cast_nonneg usage.completionTokens)
  have hprompt' := mul_le_mul_of_nonneg_right hwhole hnonneg.input
  have houtput'' := mul_le_mul_of_nonneg_right houtput' hnonneg.output
  have : cost * 1000000 ≤ reserved * 1000000 := by
    rw [hcost, hreserved]
    linarith
  linarith

end ZeroRouter
