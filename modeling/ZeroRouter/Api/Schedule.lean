import ZeroRouter.Api.Metering
import Mathlib.Data.List.Basic
import Mathlib.Data.List.Forall2

/-!
# Schedules compared

`src/router/src/provider.rs`: what a rate table says of itself (free, selling cache
writes), and `RateSchedule::dearest_across`, the one schedule that undercuts none of
several.  A schedule is a step function of the prompt's size; two that reprice at
the same sizes are compared band by band, and any two at their thresholds.
-/

namespace ZeroRouter

open List

variable {tables : List ModelRates} {rate : Decimal} {rates table : ModelRates}

/-! ## What a table says of itself -/

namespace ModelRates

def pricesCacheWrites (rates : ModelRates) : Bool := rates.cacheWritePerMtok.isSome

def requiredRatesAreZero (rates : ModelRates) : Bool :=
  rates.inputPerMtok = some 0 && rates.outputPerMtok = some 0

def areZero (rates : ModelRates) : Bool :=
  rates.requiredRatesAreZero && rates.effectiveCachedInputPerMtok = some 0 &&
    rates.effectiveCacheWritePerMtok = some 0

end ModelRates

namespace RateSchedule

def thresholds (schedule : RateSchedule) : List Nat :=
  schedule.conditional.map (·.minPromptTokens)

def pricesCacheWrites (schedule : RateSchedule) : Bool :=
  schedule.tables.all (·.pricesCacheWrites)

def areZero (schedule : RateSchedule) : Bool := schedule.worstCase.areZero

def anyRequiredRatesAreZero (schedule : RateSchedule) : Bool :=
  schedule.tables.any (·.requiredRatesAreZero)

/-- `dearest_across`'s dearest effective rate of one dimension; an optional dimension
    none of the tables declares stays undeclared. -/
def dearestAmong (tables : List ModelRates) (declared effective : ModelRates → Option Decimal)
    (optional : Bool) : Option Decimal :=
  if optional && !tables.any fun rates => (declared rates).isSome then none
  else
    (tables.filterMap effective).foldl (fun found rate => some (found.elim rate (max · rate))) none

/-- `dearest_across`'s one band reconciled. -/
def reconcile (tables : List ModelRates) : ModelRates where
  inputPerMtok := dearestAmong tables (·.inputPerMtok) (·.inputPerMtok) false
  outputPerMtok := dearestAmong tables (·.outputPerMtok) (·.outputPerMtok) false
  cachedInputPerMtok :=
    dearestAmong tables (·.cachedInputPerMtok) ModelRates.effectiveCachedInputPerMtok true
  cacheWritePerMtok :=
    dearestAmong tables (·.cacheWritePerMtok) ModelRates.effectiveCacheWritePerMtok true

/-- The band of every schedule at one position. -/
def bandTables (schedules : List RateSchedule) (band : Nat) : List ModelRates :=
  schedules.filterMap fun schedule => schedule.conditional[band]?.map (·.rates)

/-- `dearest_across`. -/
def dearestAcross : List RateSchedule → Option RateSchedule
  | [] => none
  | first :: rest =>
      if (first :: rest).any fun schedule => schedule.thresholds ≠ first.thresholds then none
      else
        some
          { base := reconcile ((first :: rest).map (·.base))
            conditional := first.conditional.zipIdx.map fun table =>
              { minPromptTokens := table.1.minPromptTokens
                rates := reconcile (bandTables (first :: rest) table.2) } }

end RateSchedule

/-! ## Tables the biller can price -/

/-- A rate `billable_rate` takes. -/
def Billable (rate : Option Decimal) : Prop := ∀ r, rate = some r → 0 ≤ r ∧ r ≤ maxRatePerMtok

/-- A table that states its two required rates. -/
structure ModelRates.Declared (rates : ModelRates) : Prop where
  input : ∃ r, rates.inputPerMtok = some r
  output : ∃ r, rates.outputPerMtok = some r

/-- A prompt token read from the cache, or written to it, is billed at the table's own
    rate for it or at its input rate. -/
theorem ModelRates.Declared.effective (declared : rates.Declared) (own : Option Decimal) :
    ∃ r, own.or rates.inputPerMtok = some r := by
  obtain ⟨r, hr⟩ := declared.input
  cases own with
  | none => exact ⟨r, by simp [hr]⟩
  | some rate => exact ⟨rate, rfl⟩

/-- What catalog validation asks of one table. -/
structure ModelRates.Valid (rates : ModelRates) : Prop where
  input : ∃ r, rates.inputPerMtok = some r
  output : ∃ r, rates.outputPerMtok = some r
  billableInput : Billable rates.inputPerMtok
  billableOutput : Billable rates.outputPerMtok
  billableCached : Billable rates.cachedInputPerMtok
  billableWrite : Billable rates.cacheWritePerMtok

theorem Billable.getD {rate : Option Decimal} (h : Billable rate) :
    0 ≤ rate.getD 0 ∧ rate.getD 0 ≤ maxRatePerMtok := by
  cases rate with
  | none => simp [maxRatePerMtok]
  | some r => exact h r rfl

theorem Billable.or {rate fallback : Option Decimal} (h : Billable rate)
    (h' : Billable fallback) : Billable (rate.or fallback) := by
  cases rate with
  | none => simpa using h'
  | some r => simpa using h

namespace ModelRates.Valid

variable {rates : ModelRates} (valid : rates.Valid)

include valid

theorem billableEffectiveCached : Billable rates.effectiveCachedInputPerMtok :=
  valid.billableCached.or valid.billableInput

theorem billableEffectiveWrite : Billable rates.effectiveCacheWritePerMtok :=
  valid.billableWrite.or valid.billableInput

theorem declared : rates.Declared := ⟨valid.input, valid.output⟩

theorem effectiveCached : ∃ r, rates.effectiveCachedInputPerMtok = some r :=
  valid.declared.effective _

theorem effectiveWrite : ∃ r, rates.effectiveCacheWritePerMtok = some r :=
  valid.declared.effective _

end ModelRates.Valid

theorem billableRate_of_bounds (h : 0 ≤ rate ∧ rate ≤ maxRatePerMtok) :
    billableRate rate = some rate := by
  unfold billableRate
  rw [if_pos h]

theorem checkedMul_of_bounds {tokens : Nat} (htokens : tokens ≤ u64Max)
    (h : 0 ≤ rate ∧ rate ≤ maxRatePerMtok) :
    checkedMul tokens rate = some (tokens * rate) ∧ 0 ≤ (tokens * rate : ℚ) ∧
      (tokens * rate : ℚ) ≤ u64Max * maxRatePerMtok := by
  have htokens' : (tokens : ℚ) ≤ u64Max := by exact_mod_cast htokens
  have hnonneg : (0 : ℚ) ≤ tokens := Nat.cast_nonneg tokens
  have hle : (tokens * rate : ℚ) ≤ u64Max * maxRatePerMtok :=
    mul_le_mul htokens' h.2 h.1 (Nat.cast_nonneg _)
  have hpos : (0 : ℚ) ≤ tokens * rate := mul_nonneg hnonneg h.1
  refine ⟨?_, hpos, hle⟩
  unfold checkedMul
  rw [if_pos]
  rw [abs_of_nonneg hpos]
  refine hle.trans ?_
  norm_num [u64Max, maxRatePerMtok, decimalMax]

theorem Decimal.checkedAdd_of_bounds {a b : Decimal} (ha : 0 ≤ a) (hb : 0 ≤ b)
    (h : a + b ≤ decimalMax) : Decimal.checkedAdd a b = some (a + b) := by
  unfold Decimal.checkedAdd
  rw [if_pos]
  rwa [abs_of_nonneg (add_nonneg ha hb)]

/-- The counts of a usage as the wire carries them. -/
structure OpenAiUsage.Counted (usage : OpenAiUsage) : Prop where
  prompt : usage.promptTokens ≤ u64Max
  completion : usage.completionTokens ≤ u64Max

/-- A valid table prices every usage: no sum it makes leaves the decimal range. -/
theorem usageCost_total (valid : rates.Valid) {usage : OpenAiUsage} (counted : usage.Counted) :
    ∃ cost, usageCost rates usage = some cost := by
  have hinput := valid.billableInput.getD
  have houtput := valid.billableOutput.getD
  have hcached := valid.billableEffectiveCached.getD
  have hwrite := valid.billableEffectiveWrite.getD
  have hprompt := counted.prompt
  have hsplit := usage.split.whole
  obtain ⟨hfresh, hfresh₀, hfresh₁⟩ :=
    checkedMul_of_bounds (show usage.split.fresh ≤ u64Max by omega) hinput
  obtain ⟨hreads, hreads₀, hreads₁⟩ :=
    checkedMul_of_bounds (show usage.split.cached ≤ u64Max by omega) hcached
  obtain ⟨hwrites, hwrites₀, hwrites₁⟩ :=
    checkedMul_of_bounds (show usage.split.written ≤ u64Max by omega) hwrite
  obtain ⟨hout, hout₀, hout₁⟩ := checkedMul_of_bounds counted.completion houtput
  -- Four products of at most 1.9e25 each stay under 7.9e28.
  have room : (u64Max : ℚ) * maxRatePerMtok * 4 ≤ decimalMax := by
    norm_num [u64Max, maxRatePerMtok, decimalMax]
  have hcached' := rates.cachedRate_eq
  have hwrite' := rates.writeRate_eq
  unfold ModelRates.cachedRate at hcached'
  unfold ModelRates.writeRate at hwrite'
  have hfirst := Decimal.checkedAdd_of_bounds hfresh₀ hreads₀ (by linarith)
  have hsecond := Decimal.checkedAdd_of_bounds (add_nonneg hfresh₀ hreads₀) hwrites₀ (by linarith)
  have hthird := Decimal.checkedAdd_of_bounds (add_nonneg (add_nonneg hfresh₀ hreads₀) hwrites₀)
    hout₀ (by linarith)
  simp only [OpenAiUsage.split] at hfresh hreads hwrites hfirst hsecond hthird
  apply Option.isSome_iff_exists.mp
  unfold usageCost
  simp only [Option.bind_eq_bind, ← hcached', ← hwrite', billableRate_of_bounds hinput,
    billableRate_of_bounds houtput, billableRate_of_bounds hcached, billableRate_of_bounds hwrite,
    Option.bind_some, hfresh, hreads, hwrites, hout, hfirst, hsecond, hthird]
  rfl

/-! ## Tables compared -/

/-- A table no dearer than another in any dimension it bills. -/
structure ModelRates.AtMost (rates other : ModelRates) : Prop where
  input : rates.inputRate ≤ other.inputRate
  output : rates.outputRate ≤ other.outputRate
  cached : rates.cachedRate ≤ other.cachedRate
  write : rates.writeRate ≤ other.writeRate

theorem ModelRates.AtMost.trans {a b c : ModelRates} (h : a.AtMost b) (h' : b.AtMost c) :
    a.AtMost c :=
  ⟨h.input.trans h'.input, h.output.trans h'.output, h.cached.trans h'.cached,
    h.write.trans h'.write⟩

/-- The cost of one usage follows the table, whatever the usage's split. -/
theorem usageCost_mono {other : ModelRates} (h : rates.AtMost other) {usage : OpenAiUsage}
    {cost dearer : Decimal} (hcost : usageCost rates usage = some cost)
    (hdearer : usageCost other usage = some dearer) : cost ≤ dearer := by
  obtain ⟨-, hcost⟩ := usageCost_eq_some hcost
  obtain ⟨-, hdearer⟩ := usageCost_eq_some hdearer
  have cast_nonneg : ∀ n : Nat, (0 : ℚ) ≤ n := fun n => Nat.cast_nonneg n
  have hfresh := mul_le_mul_of_nonneg_left h.input (cast_nonneg usage.split.fresh)
  have hreads := mul_le_mul_of_nonneg_left h.cached (cast_nonneg usage.split.cached)
  have hwrites := mul_le_mul_of_nonneg_left h.write (cast_nonneg usage.split.written)
  have hout := mul_le_mul_of_nonneg_left h.output (cast_nonneg usage.completionTokens)
  linarith

namespace RateSchedule

/-! ## Bands -/

/-- Where every table is related to the one at its position, and repriced at the same
    size, so are the tables that apply. -/
theorem highestThreshold_forall₂ {R : ConditionalRate → ConditionalRate → Prop}
    (same : ∀ a b, R a b → a.minPromptTokens = b.minPromptTokens) {left right : List ConditionalRate}
    (h : List.Forall₂ R left right) :
    Option.Rel R (highestThreshold left) (highestThreshold right) := by
  induction h with
  | nil => exact .none
  | @cons a b restLeft restRight hab hrest ih =>
      unfold highestThreshold
      generalize highestThreshold restLeft = later at ih
      generalize highestThreshold restRight = later' at ih
      cases ih with
      | none => exact .some hab
      | @some c d hcd =>
          simp only [same a b hab, same c d hcd]
          by_cases hle : b.minPromptTokens ≤ d.minPromptTokens
          · simpa [hle] using hcd
          · simpa [hle] using hab

theorem filter_forall₂ {α : Type} {R : α → α → Prop} (test : α → Bool)
    (same : ∀ a b, R a b → test a = test b) {left right : List α} (h : List.Forall₂ R left right) :
    List.Forall₂ R (left.filter test) (right.filter test) := by
  induction h with
  | nil => exact .nil
  | @cons a b _ _ hab _ ih =>
      rw [filter_cons, filter_cons, ← same a b hab]
      by_cases htest : test a = true
      · simpa [htest] using ⟨hab, ih⟩
      · simpa [htest] using ih

/-- Schedules related band by band are related at every prompt size. -/
theorem atPromptTokens_rel {R : ModelRates → ModelRates → Prop} {left right : RateSchedule}
    (base : R left.base right.base)
    (bands : List.Forall₂ (fun a b => a.minPromptTokens = b.minPromptTokens ∧ R a.rates b.rates)
      left.conditional right.conditional) (promptTokens : Nat) :
    R (left.atPromptTokens promptTokens) (right.atPromptTokens promptTokens) := by
  unfold atPromptTokens
  have hempty : left.conditional.isEmpty = right.conditional.isEmpty := by
    rw [Bool.eq_iff_iff, isEmpty_iff_length_eq_zero, isEmpty_iff_length_eq_zero,
      bands.length_eq]
  rw [hempty]
  by_cases hflat : right.conditional.isEmpty = true
  · rw [if_pos hflat, if_pos hflat]
    exact base
  · rw [if_neg hflat, if_neg hflat]
    have picked := highestThreshold_forall₂ (fun _ _ h => h.1)
      (filter_forall₂ (fun table => table.minPromptTokens ≤ promptTokens)
        (fun a b h => by simp [h.1]) bands)
    generalize highestThreshold (left.conditional.filter _) = applied at picked ⊢
    generalize highestThreshold (right.conditional.filter _) = applied' at picked ⊢
    cases picked with
    | none => exact base
    | some h => exact h.2

/-- Between two of its thresholds a schedule charges one table. -/
theorem atPromptTokens_eq_of_between {schedule : RateSchedule} {low high : Nat} (hle : low ≤ high)
    (between : ∀ threshold ∈ schedule.thresholds, threshold ≤ high → threshold ≤ low) :
    schedule.atPromptTokens high = schedule.atPromptTokens low := by
  unfold atPromptTokens
  have : (schedule.conditional.filter fun table => table.minPromptTokens ≤ high) =
      schedule.conditional.filter fun table => table.minPromptTokens ≤ low := by
    apply filter_congr
    intro table htable
    have hthreshold : table.minPromptTokens ∈ schedule.thresholds := mem_map_of_mem htable
    have := between _ hthreshold
    simp only [decide_eq_decide]
    exact ⟨this, fun h => h.trans hle⟩
  rw [this]

/-- The greatest of some sizes not past a given one. -/
theorem exists_greatest {sizes : List Nat} (hzero : 0 ∈ sizes) (high : Nat) :
    ∃ low ∈ sizes, low ≤ high ∧ ∀ size ∈ sizes, size ≤ high → size ≤ low := by
  have hne : (sizes.filter (· ≤ high)) ≠ [] := by
    have : 0 ∈ sizes.filter (· ≤ high) := by simp [hzero]
    exact ne_nil_of_mem this
  obtain ⟨low, hlow⟩ := Option.isSome_iff_exists.mp (isSome_max?_iff.mpr hne)
  obtain ⟨hmem, hmax⟩ := max?_eq_some_iff.mp hlow
  rw [mem_filter, decide_eq_true_eq] at hmem
  refine ⟨low, hmem.1, hmem.2, ?_⟩
  intro size hsize hle
  exact hmax size (mem_filter.mpr ⟨hsize, by simpa using hle⟩)

/-- What holds of two schedules at every size either reprices at, and at zero, holds of
    them at every size. -/
theorem atPromptTokens_of_probes {R : ModelRates → ModelRates → Prop} {left right : RateSchedule}
    {probes : List Nat} (zero : 0 ∈ probes) (hleft : ∀ size ∈ left.thresholds, size ∈ probes)
    (hright : ∀ size ∈ right.thresholds, size ∈ probes)
    (h : ∀ probe ∈ probes, R (left.atPromptTokens probe) (right.atPromptTokens probe))
    (promptTokens : Nat) :
    R (left.atPromptTokens promptTokens) (right.atPromptTokens promptTokens) := by
  obtain ⟨low, hmem, hle, hmax⟩ := exists_greatest zero promptTokens
  rw [atPromptTokens_eq_of_between hle fun size hsize => hmax size (hleft size hsize),
    atPromptTokens_eq_of_between hle fun size hsize => hmax size (hright size hsize)]
  exact h low hmem

/-! ## The reconciled schedule -/

/-- Every table a schedule holds is valid. -/
def Valid (schedule : RateSchedule) : Prop := ∀ table ∈ schedule.tables, table.Valid

theorem Valid.atPromptTokens {schedule : RateSchedule} (valid : schedule.Valid)
    (promptTokens : Nat) : (schedule.atPromptTokens promptTokens).Valid :=
  valid _ (schedule.atPromptTokens_mem promptTokens)

/-- The dearest among some rates is one of them, and none is dearer. -/
theorem foldl_max_eq_some {rates : List Decimal} {found : Option Decimal} {top : Decimal}
    (h : rates.foldl (fun found rate => some (found.elim rate (max · rate))) found = some top) :
    found = some top ∨ top ∈ rates := by
  induction rates generalizing found with
  | nil => exact .inl h
  | cons first rest ih =>
      rw [foldl_cons] at h
      rcases ih h with h | h
      · cases found with
        | none =>
            simp only [Option.elim_none, Option.some.injEq] at h
            simp [h]
        | some seen =>
            simp only [Option.elim_some, Option.some.injEq] at h
            rcases max_choice seen first with hmax | hmax
            · rw [hmax] at h
              simp [h]
            · rw [hmax] at h
              simp [h]
      · exact .inr (mem_cons_of_mem _ h)

/-- A reconciled dimension holds one of the tables' effective rates. -/
theorem dearestAmong_eq_some (declared effective : ModelRates → Option Decimal) (optional : Bool)
    {top : Decimal} (h : dearestAmong tables declared effective optional = some top) :
    ∃ table ∈ tables, effective table = some top := by
  unfold dearestAmong at h
  split at h
  · cases h
  · rcases foldl_max_eq_some h with h | h
    · cases h
    · exact mem_filterMap.mp h

/-- A reconciled dimension is at least every table's own, where it is declared at all. -/
theorem le_dearestAmong (declared effective : ModelRates → Option Decimal) (optional : Bool)
    (hmem : table ∈ tables) (hrate : effective table = some rate)
    (hdeclared : optional = true → ∃ other ∈ tables, (declared other).isSome = true) :
    ∃ top, dearestAmong tables declared effective optional = some top ∧ rate ≤ top := by
  unfold dearestAmong
  rw [if_neg]
  · exact foldl_max_spec _ none rate (.inr (mem_filterMap.mpr ⟨table, hmem, hrate⟩))
  · intro h
    rw [Bool.and_eq_true, Bool.not_eq_true'] at h
    obtain ⟨other, hother, hsome⟩ := hdeclared h.1
    have := any_eq_false.mp h.2 other hother
    exact this hsome

/-- An optional dimension no table declares falls back to the reconciled input. -/
theorem reconcile_effective (declared : ModelRates → Option Decimal) (hmem : table ∈ tables)
    (hrate : (declared table).or table.inputPerMtok = some rate) :
    ∃ top, (dearestAmong tables declared (fun rates => (declared rates).or rates.inputPerMtok)
        true).or (dearestAmong tables (·.inputPerMtok) (·.inputPerMtok) false) = some top ∧
      rate ≤ top := by
  by_cases hdeclared : ∃ other ∈ tables, (declared other).isSome = true
  · obtain ⟨top, htop, hle⟩ := le_dearestAmong declared
      (fun rates => (declared rates).or rates.inputPerMtok) true hmem hrate fun _ => hdeclared
    exact ⟨top, by rw [htop, Option.some_or], hle⟩
  · have habsent : dearestAmong tables declared
        (fun rates => (declared rates).or rates.inputPerMtok) true = none := by
      unfold dearestAmong
      rw [if_pos]
      simpa using hdeclared
    have hown : declared table = none := by
      by_contra hsome
      exact hdeclared ⟨table, hmem, Option.isSome_iff_ne_none.mpr hsome⟩
    rw [hown, Option.none_or] at hrate
    obtain ⟨top, htop, hle⟩ :=
      le_dearestAmong (·.inputPerMtok) (·.inputPerMtok) false hmem hrate (by simp)
    exact ⟨top, by rw [habsent, Option.none_or, htop], hle⟩

/-- Reconciling undercuts none of the tables. -/
theorem atMost_reconcile (hmem : table ∈ tables) (declared : table.Declared) :
    table.AtMost (reconcile tables) := by
  obtain ⟨input, hinput⟩ := declared.input
  obtain ⟨output, houtput⟩ := declared.output
  obtain ⟨cached, hcached⟩ : ∃ r, table.effectiveCachedInputPerMtok = some r :=
    declared.effective _
  obtain ⟨write, hwrite⟩ : ∃ r, table.effectiveCacheWritePerMtok = some r :=
    declared.effective _
  obtain ⟨topInput, htopInput, hleInput⟩ :=
    le_dearestAmong (·.inputPerMtok) (·.inputPerMtok) false hmem hinput (by simp)
  obtain ⟨topOutput, htopOutput, hleOutput⟩ :=
    le_dearestAmong (·.outputPerMtok) (·.outputPerMtok) false hmem houtput (by simp)
  obtain ⟨topCached, htopCached, hleCached⟩ :=
    reconcile_effective (·.cachedInputPerMtok) hmem hcached
  obtain ⟨topWrite, htopWrite, hleWrite⟩ := reconcile_effective (·.cacheWritePerMtok) hmem hwrite
  refine ⟨?_, ?_, ?_, ?_⟩
  · simpa [ModelRates.inputRate, reconcile, hinput, htopInput] using hleInput
  · simpa [ModelRates.outputRate, reconcile, houtput, htopOutput] using hleOutput
  · have : (reconcile tables).effectiveCachedInputPerMtok = some topCached := htopCached
    simpa [ModelRates.cachedRate, hcached, this] using hleCached
  · have : (reconcile tables).effectiveCacheWritePerMtok = some topWrite := htopWrite
    simpa [ModelRates.writeRate, hwrite, this] using hleWrite

/-- Reconciling valid tables, at least one, makes a valid table. -/
theorem reconcile_valid (hne : tables ≠ []) (valid : ∀ table ∈ tables, table.Valid) :
    (reconcile tables).Valid := by
  obtain ⟨table, rest, htables⟩ := exists_cons_of_ne_nil hne
  have hmem : table ∈ tables := htables ▸ mem_cons_self
  obtain ⟨input, hinput⟩ := (valid table hmem).input
  obtain ⟨output, houtput⟩ := (valid table hmem).output
  obtain ⟨topInput, htopInput, -⟩ :=
    le_dearestAmong (·.inputPerMtok) (·.inputPerMtok) false hmem hinput (by simp)
  obtain ⟨topOutput, htopOutput, -⟩ :=
    le_dearestAmong (·.outputPerMtok) (·.outputPerMtok) false hmem houtput (by simp)
  -- A dimension's value is some table's own effective rate.
  refine ⟨⟨topInput, htopInput⟩, ⟨topOutput, htopOutput⟩, ?_, ?_, ?_, ?_⟩
  all_goals intro rate hrate
  · obtain ⟨own, hown, heq⟩ := dearestAmong_eq_some (·.inputPerMtok) (·.inputPerMtok) false hrate
    exact (valid own hown).billableInput rate heq
  · obtain ⟨own, hown, heq⟩ :=
      dearestAmong_eq_some (·.outputPerMtok) (·.outputPerMtok) false hrate
    exact (valid own hown).billableOutput rate heq
  · obtain ⟨own, hown, heq⟩ := dearestAmong_eq_some (·.cachedInputPerMtok)
      ModelRates.effectiveCachedInputPerMtok true hrate
    exact (valid own hown).billableEffectiveCached rate heq
  · obtain ⟨own, hown, heq⟩ := dearestAmong_eq_some (·.cacheWritePerMtok)
      ModelRates.effectiveCacheWritePerMtok true hrate
    exact (valid own hown).billableEffectiveWrite rate heq

section Across

variable {first : RateSchedule} {rest : List RateSchedule} {unified : RateSchedule}

/-- What reconciling schedules makes, and that they all reprice where the first does. -/
theorem dearestAcross_cons (h : dearestAcross (first :: rest) = some unified) :
    (∀ member ∈ first :: rest, member.thresholds = first.thresholds) ∧
      unified.base = reconcile ((first :: rest).map (·.base)) ∧
      unified.conditional = first.conditional.zipIdx.map fun table =>
        { minPromptTokens := table.1.minPromptTokens
          rates := reconcile (bandTables (first :: rest) table.2) } := by
  simp only [dearestAcross] at h
  by_cases hdiffer : ((first :: rest).any fun schedule =>
      schedule.thresholds ≠ first.thresholds) = true
  · rw [if_pos hdiffer] at h
    cases h
  · rw [if_neg hdiffer, Option.some.injEq] at h
    subst h
    refine ⟨?_, rfl, rfl⟩
    simpa using hdiffer

theorem mem_bandTables {schedules : List RateSchedule} {member : RateSchedule} {band : Nat}
    {table : ConditionalRate} (hmem : member ∈ schedules)
    (hband : member.conditional[band]? = some table) : table.rates ∈ bandTables schedules band := by
  unfold bandTables
  rw [mem_filterMap]
  exact ⟨member, hmem, by rw [hband, Option.map_some]⟩

/-- The reconciled schedule undercuts no member at any prompt size. -/
theorem atMost_dearestAcross (h : dearestAcross (first :: rest) = some unified)
    {member : RateSchedule} (hmem : member ∈ first :: rest) (valid : member.Valid)
    (promptTokens : Nat) :
    (member.atPromptTokens promptTokens).AtMost (unified.atPromptTokens promptTokens) := by
  obtain ⟨hsame, hbase, hbands⟩ := dearestAcross_cons h
  have hthresholds := hsame member hmem
  have hlength : member.conditional.length = first.conditional.length := by
    simpa [thresholds] using congrArg List.length hthresholds
  refine atPromptTokens_rel ?_ ?_ promptTokens
  · rw [hbase]
    exact atMost_reconcile (mem_map_of_mem hmem) (valid _ mem_cons_self).declared
  · rw [hbands, forall₂_iff_get]
    refine ⟨by simp [hlength], ?_⟩
    intro band hmember hunified
    have hfirst : band < first.conditional.length := hlength ▸ hmember
    simp only [get_eq_getElem, getElem_map, getElem_zipIdx, Nat.zero_add]
    refine ⟨?_, ?_⟩
    · have := congrArg (·[band]?) hthresholds
      simpa [thresholds, hmember, hfirst] using this
    · refine atMost_reconcile (mem_bandTables hmem (getElem?_eq_getElem hmember))
        (valid _ ?_).declared
      exact mem_cons_of_mem _ (mem_map_of_mem (getElem_mem hmember))

/-- Reconciling valid schedules makes a valid one. -/
theorem dearestAcross_valid (h : dearestAcross (first :: rest) = some unified)
    (valid : ∀ member ∈ first :: rest, member.Valid) : unified.Valid := by
  obtain ⟨hsame, hbase, hbands⟩ := dearestAcross_cons h
  intro table htable
  rcases mem_cons.mp htable with rfl | htable
  · rw [hbase]
    refine reconcile_valid (by simp) ?_
    intro own hown
    obtain ⟨member, hmember, rfl⟩ := mem_map.mp hown
    exact valid member hmember _ mem_cons_self
  · rw [hbands, mem_map] at htable
    obtain ⟨repriced, hrepriced, rfl⟩ := htable
    obtain ⟨⟨own, band⟩, hown, rfl⟩ := mem_map.mp hrepriced
    have hown := mem_zipIdx_iff_getElem?.mp hown
    refine reconcile_valid ?_ ?_
    · exact ne_nil_of_mem (mem_bandTables mem_cons_self hown)
    · intro other hother
      obtain ⟨member, hmember, hband⟩ := mem_filterMap.mp hother
      obtain ⟨conditional, hconditional, rfl⟩ := Option.map_eq_some_iff.mp hband
      refine valid member hmember _ (mem_cons_of_mem _ ?_)
      exact mem_map_of_mem (mem_of_getElem? hconditional)

end Across

end RateSchedule

end ZeroRouter
