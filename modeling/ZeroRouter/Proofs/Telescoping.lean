import ZeroRouter.Proofs.Totals
import ZeroRouter.Proofs.Charging
import Mathlib.Algebra.BigOperators.Ring.List

/-!
# The BYOK fee telescopes

Within one user's month every fee is the growth of what the catalog total exceeds
the allowance by, so the fees of any run of settlements add up to the fee on the
excess of the whole, whatever order they settled in and whatever was retried.
-/

namespace ZeroRouter

open List Relational

variable {w : World} {db db' : Db} {event : UsageEvent} {a : Action}

/-- The BYOK metering rows of one user's month, in settlement order. -/
def Db.byokSettlements (db : Db) (userId : Uuid) (month : Timestamp) : List UsageEvent :=
  db.usageEvents.rows.filter fun event =>
    (db.owns userId event.apiKeyId ∧ usageEventUtcMonth event.ts = month) ∧
      event.byokCatalogUsd ≠ none

/-- What the user's BYOK settlements of the month were charged. -/
def Db.byokFees (db : Db) (userId : Uuid) (month : Timestamp) : List Decimal :=
  (db.byokSettlements userId month).map UsageEvent.costUsd

/-- What they cost at catalog rates. -/
def Db.byokCatalogs (db : Db) (userId : Uuid) (month : Timestamp) : List Decimal :=
  (db.byokSettlements userId month).map UsageEvent.byokCatalog

/-- The user's BYOK settlements come no later than the month, and those in it were
    priced at the fee rate before the allowance. -/
def PricedAtFeeRate (userId : Uuid) (month : Timestamp) (w : World) (a : Action) : Prop :=
  ∀ call, w.settleCall a = some call → call.intent.userId = userId →
    ∀ catalog, call.intent.byokCatalogUsd = some catalog →
      usageEventUtcMonth call.now ≤ month ∧
        (usageEventUtcMonth call.now = month → call.intent.costUsd = feeRate * catalog)

/-- A row that consumed allowance was admitted, so its key has an owner. -/
theorem Inv.byok_owned (inv : Inv w) (hevent : event ∈ w.db.usageEvents)
    (byok : event.byokCatalogUsd ≠ none) :
    ∃ owner, w.db.owns owner event.apiKeyId := by
  rcases inv.events event hevent with ⟨admission, hadm, -, hkey⟩ | ⟨-, house, -⟩
  · exact ⟨_, hkey ▸ inv.keys admission hadm⟩
  · exact absurd house byok

/-- A settle charges the owner of the key it meters. -/
theorem Inv.settle_owner {call : World.SettleCall} (inv : Inv w)
    (called : w.settleCall a = some call) {userId : Uuid} (owned : w.db.owns userId call.apiKeyId) :
    call.intent.userId = userId := by
  obtain ⟨admission, hadm, -, hkey, huser, -⟩ := inv.settleCall called
  rw [huser]
  exact Db.owns_unique (hkey ▸ inv.keys admission hadm) owned

/-! ## The invariant -/

structure Telescopes (userId : Uuid) (month : Timestamp) (db : Db) : Prop where
  current : ∀ event ∈ db.usageEvents, db.owns userId event.apiKeyId →
    event.byokCatalogUsd ≠ none → usageEventUtcMonth event.ts ≤ month
  /-- The fees are the bills of the catalog costs, at the fee rate. -/
  fees : db.byokFees userId month =
    (Allowance.bills monthlyAllowance 0 (db.byokCatalogs userId month)).map (feeRate * ·)
  each : ∀ event ∈ db.byokSettlements userId month,
    0 ≤ event.costUsd ∧ event.costUsd ≤ feeRate * event.byokCatalog

section Month

variable {userId : Uuid} {month : Timestamp}

/-- A settlement in the month finds consumed what the month's settlements cost. -/
theorem Telescopes.consumed (telescopes : Telescopes userId month db) (tallied : db.Tallied)
    {now : Timestamp} (inMonth : usageEventUtcMonth now = month) :
    db.userMonthlyByokCatalog now userId = (db.byokCatalogs userId month).sum := by
  rw [tallied.userMonthlyByokCatalog, Db.byokCatalogs, Db.byokSettlements,
    ← sumWhere_eq_sum_filter]
  refine sumWhere_ext fun event hevent => ?_
  by_cases byok : event.byokCatalogUsd = none
  · simp [byok, UsageEvent.byokCatalog]
  · have same : (db.owns userId event.apiKeyId ∧ usageEventUtcMonth now ≤ event.ts) ↔
        ((db.owns userId event.apiKeyId ∧ usageEventUtcMonth event.ts = month) ∧
          event.byokCatalogUsd ≠ none) := by
      rw [← month_ge_iff, inMonth, and_iff_left byok]
      refine and_congr_right fun owned => ?_
      have notLater := telescopes.current event hevent owned byok
      exact ⟨fun h => le_antisymm notLater h, fun h => h.ge⟩
    exact if_congr same rfl rfl

/-- One more settlement of the month, billed against those before it. -/
theorem Telescopes.settled {catalog : Decimal} (telescopes : Telescopes userId month db)
    (keys : db'.apiKeys = db.apiKeys)
    (rows : db'.usageEvents.rows = db.usageEvents.rows ++ [event])
    (owned : db.owns userId event.apiKeyId) (inMonth : usageEventUtcMonth event.ts = month)
    (byok : event.byokCatalogUsd = some catalog) (nonneg : 0 ≤ catalog)
    (fee : event.costUsd =
      feeRate * Allowance.billable monthlyAllowance catalog (db.byokCatalogs userId month).sum) :
    Telescopes userId month db' := by
  have owns : db'.owns = db.owns := Db.owns_of_apiKeys keys
  have grown : db'.byokSettlements userId month = db.byokSettlements userId month ++ [event] := by
    unfold Db.byokSettlements
    simp [owns, rows, filter_append, owned, inMonth, byok]
  have hcatalog : event.byokCatalog = catalog := by
    simp [UsageEvent.byokCatalog, byok]
  refine ⟨?_, ?_, ?_⟩
  · intro other hother
    rw [Table.mem_def, rows] at hother
    rw [owns]
    rcases mem_append.mp hother with before | new
    · exact telescopes.current other before
    · rw [mem_singleton.mp new]
      exact fun _ _ => inMonth.le
  · have before := telescopes.fees
    unfold Db.byokFees Db.byokCatalogs at before ⊢
    rw [grown, map_append, map_append, before, map_singleton, map_singleton,
      Allowance.bills_append_singleton, map_append, map_singleton, fee, hcatalog,
      zero_add]
    rfl
  · intro other hother
    rw [grown] at hother
    rcases mem_append.mp hother with before | new
    · exact telescopes.each other before
    · rw [mem_singleton.mp new, hcatalog, fee]
      constructor
      · exact mul_nonneg feeRate_pos.le Allowance.billable_nonneg
      · exact mul_le_mul_of_nonneg_left (Allowance.billable_le nonneg) feeRate_pos.le

/-- A metering row that is no BYOK settlement of the user's month. -/
theorem Telescopes.passed (telescopes : Telescopes userId month db)
    (keys : db'.apiKeys = db.apiKeys)
    (rows : db'.usageEvents.rows = db.usageEvents.rows ++ [event])
    (passes : ¬ ((db.owns userId event.apiKeyId ∧ usageEventUtcMonth event.ts = month) ∧
      event.byokCatalogUsd ≠ none))
    (current : db.owns userId event.apiKeyId → event.byokCatalogUsd ≠ none →
      usageEventUtcMonth event.ts ≤ month) : Telescopes userId month db' := by
  have owns : db'.owns = db.owns := Db.owns_of_apiKeys keys
  have same : db'.byokSettlements userId month = db.byokSettlements userId month := by
    simp only [Db.byokSettlements, owns, rows, filter_append]
    rw [filter_cons_of_neg (by simpa using passes), filter_nil, append_nil]
  refine ⟨?_, ?_, ?_⟩
  · intro other hother
    rw [Table.mem_def, rows] at hother
    rw [owns]
    rcases mem_append.mp hother with before | new
    · exact telescopes.current other before
    · rw [mem_singleton.mp new]
      exact current
  · unfold Db.byokFees Db.byokCatalogs
    rw [same]
    exact telescopes.fees
  · rw [same]
    exact telescopes.each

theorem Telescopes.step {w' : World} (inv : Inv w) (tallied : w.db.Tallied)
    (telescopes : Telescopes userId month w.db) (h : Change w a w')
    (priced : PricedAtFeeRate userId month w a) : Telescopes userId month w'.db := by
  rcases metering_step h with ⟨same, -, -, -⟩ | ⟨event, inserted, -, -, -, keys, -, origin⟩
  · have owns : ∀ event ∈ w.db.usageEvents, event.byokCatalogUsd ≠ none →
        (w'.db.owns userId event.apiKeyId ↔ w.db.owns userId event.apiKeyId) :=
      fun event hevent byok => owns_step_iff h (inv.byok_owned hevent byok) userId
    have kept : w'.db.byokSettlements userId month = w.db.byokSettlements userId month := by
      unfold Db.byokSettlements
      rw [same]
      refine filter_congr fun event hevent => decide_eq_decide.mpr ?_
      refine and_congr_left fun byok => and_congr_left fun _ => ?_
      exact owns event hevent byok
    refine ⟨?_, ?_, ?_⟩
    · intro event hevent owned byok
      rw [same] at hevent
      exact telescopes.current event hevent ((owns event hevent byok).mp owned) byok
    · unfold Db.byokFees Db.byokCatalogs
      rw [kept]
      exact telescopes.fees
    · rw [kept]
      exact telescopes.each
  · obtain ⟨rows, checked, -⟩ := Table.insert_ok inserted
    cases origin with
    | free session mem free requestId apiKeyId costless house =>
        refine telescopes.passed keys rows ?_ ?_
        · exact fun settlement => settlement.2 house
        · exact fun _ byok => absurd house byok
    | settled call called timely reservation effect =>
        have current : w.db.owns userId event.apiKeyId → ∀ catalog,
            call.intent.byokCatalogUsd = some catalog → usageEventUtcMonth event.ts ≤ month ∧
              (usageEventUtcMonth event.ts = month →
                call.intent.costUsd = feeRate * catalog) := by
          intro owned catalog hcatalog
          rw [effect.eventTs]
          rw [effect.eventApiKeyId] at owned
          exact priced call called (inv.settle_owner called owned) catalog hcatalog
        rcases Db.priceSettlement_ok effect.priced with
          ⟨-, house, -⟩ | ⟨catalog, hrecord, hcatalog, hcost⟩
        · refine telescopes.passed keys rows ?_ ?_
          · exact fun settlement => settlement.2 house
          · exact fun _ byok => absurd house byok
        by_cases settlement : w.db.owns userId event.apiKeyId ∧ usageEventUtcMonth event.ts = month
        · obtain ⟨owned, inMonth⟩ := settlement
          have nonneg : 0 ≤ catalog := checked.byokCatalogIsNonnegative catalog hcatalog
          have price := (current owned catalog hrecord).2 inMonth
          have consumed := telescopes.consumed tallied (effect.eventTs ▸ inMonth)
          have user : call.intent.userId = userId :=
            inv.settle_owner called (effect.eventApiKeyId ▸ owned)
          refine telescopes.settled keys rows owned inMonth hcatalog nonneg ?_
          -- The allowance only lowers the fee, so the ceiling never binds.
          have ceiling : Allowance.billable monthlyAllowance catalog
              (w.db.byokCatalogs userId month).sum * feeRate ≤ call.intent.costUsd := by
            rw [price, mul_comm]
            exact mul_le_mul_of_nonneg_left (Allowance.billable_le nonneg) feeRate_pos.le
          rw [hcost, user, consumed, billableAboveAllowance_eq]
          change min _ call.intent.costUsd = _
          rw [min_eq_left ceiling, mul_comm]
        · refine telescopes.passed keys rows (fun s => settlement s.1) ?_
          exact fun owned _ => (current owned catalog hrecord).1

/-! ## The theorem -/

theorem Telescopes.opening (h : w.Opening) : Telescopes userId month w.db where
  current := by simp [h.usageEvents, Table.mem_def]
  fees := by simp [Db.byokFees, Db.byokCatalogs, Db.byokSettlements, h.usageEvents,
    Allowance.bills]
  each := by simp [Db.byokSettlements, h.usageEvents]

theorem Telescopes.reaches {w₀ : World} (opening : w₀.Opening)
    (run : Reaches (PricedAtFeeRate userId month) w₀ w) : Telescopes userId month w.db := by
  have all := run.invariant
    (I := fun w => Inv w ∧ w.db.Tallied ∧ Telescopes userId month w.db)
    ⟨.opening opening, .opening opening, .opening opening⟩
    fun _ _ _ h priced next =>
      have change := step_change next
      ⟨h.1.step change, h.2.1.step change, h.2.2.step h.1 h.2.1 change priced⟩
  exact all.2.2

/-- The fees of the month are the fee on what the month exceeds the allowance by. -/
theorem Telescopes.sum (telescopes : Telescopes userId month db) :
    (db.byokFees userId month).sum =
      feeRate * max 0 ((db.byokCatalogs userId month).sum - monthlyAllowance) := by
  have nonneg : ∀ catalog ∈ db.byokCatalogs userId month, 0 ≤ catalog := by
    intro catalog hcatalog
    obtain ⟨event, hevent, rfl⟩ := mem_map.mp hcatalog
    have hmem := (mem_filter.mp hevent).1
    unfold UsageEvent.byokCatalog
    cases hbyok : event.byokCatalogUsd with
    | none => exact le_refl _
    | some value => exact (db.usageEvents.checked event hmem).byokCatalogIsNonnegative value hbyok
  have untouched : Allowance.excess monthlyAllowance 0 = 0 :=
    max_eq_right (by norm_num [monthlyAllowance])
  rw [telescopes.fees, sum_map_mul_left, map_id', Allowance.sum_bills nonneg 0, zero_add,
    untouched, sub_zero, Allowance.excess, max_comm]

/-- For one user's month, the fees settlement wrote add up to the fee rate on what
    the month's catalog total exceeds the allowance by; each lies between nothing
    and its pre-allowance fee; and any run that settled the same catalog costs, in
    whatever order and after whatever retries, wrote the same total. -/
theorem byok_fee_telescopes {w₀ w : World} (opening : w₀.Opening)
    (run : Reaches (PricedAtFeeRate userId month) w₀ w) :
    (w.db.byokFees userId month).sum =
        feeRate * max 0 ((w.db.byokCatalogs userId month).sum - monthlyAllowance) ∧
      (∀ event ∈ w.db.byokSettlements userId month,
        0 ≤ event.costUsd ∧ event.costUsd ≤ feeRate * event.byokCatalog) ∧
      ∀ v₀ v, v₀.Opening → Reaches (PricedAtFeeRate userId month) v₀ v →
        (v.db.byokCatalogs userId month).Perm (w.db.byokCatalogs userId month) →
        (v.db.byokFees userId month).sum = (w.db.byokFees userId month).sum := by
  have telescopes := Telescopes.reaches opening run
  refine ⟨telescopes.sum, telescopes.each, ?_⟩
  intro v₀ v opening' run' same
  rw [(Telescopes.reaches opening' run').sum, telescopes.sum, same.sum_eq]

end Month

/-! Two settlements that straddle the allowance, one of them retried. -/

def byokRequest (basis reserved : Decimal) : AdmissionRequest where
  key := { id := 10, userId := 1 }
  sizing := .cold { totalTokens := 1000, outputTokens := 400, costUsd := reserved }
  byok := { catalogBasis := some basis, whollyByok := true }
  requireCredits := true
  lane := .reserved

def byokRecord (catalog : Decimal) : UsageRecord where
  tier := "standard"
  upstreamProvider := "openai"
  upstreamModel := "gpt"
  usage :=
    { promptTokens := 100, completionTokens := 50, totalTokens := 150
      promptTokensDetails := none }
  costUsd := feeRate * catalog
  byokCatalogUsd := some catalog
  latencyMs := 900
  status := 200
  byok := some true
  attempts := []

def straddlingRun : List Action :=
  [.beginUsageSession 0 7 (byokRequest 3000 5) .commit,
    .beginUsageSession 0 8 (byokRequest 4000 5) .commit,
    .settle 0 8 (byokRecord 4000) .rollback, .settle 0 7 (byokRecord 3000) .commit,
    .settle 0 8 (byokRecord 4000) .commit]

/-- The executable form of `PricedAtFeeRate`. -/
instance (userId : Uuid) (month : Timestamp) (w : World) (a : Action) :
    Decidable (PricedAtFeeRate userId month w a) :=
  decidable_of_iff
    (∀ call ∈ w.settleCall a, call.intent.userId = userId →
      ∀ catalog ∈ call.intent.byokCatalogUsd,
        usageEventUtcMonth call.now ≤ month ∧
          (usageEventUtcMonth call.now = month → call.intent.costUsd = feeRate * catalog))
    Iff.rfl

theorem byok_fee_telescopes_straddling :
    ∃ w : World, w.db.byokFees 1 0 = [0, 100] ∧
      (w.db.byokFees 1 0).sum =
        feeRate * max 0 ((w.db.byokCatalogs 1 0).sum - monthlyAllowance) := by
  have runs : (Transition.runWhile step (PricedAtFeeRate 1 0) (.fresh onePrepaidUser oneKey 0)
      straddlingRun).any (fun w => w.db.byokFees 1 0 = [0, 100]) = true := by
    decide +kernel
  obtain ⟨w, run, hw⟩ := Transition.Steps.exists_of_runWhile runs
  exact ⟨w, of_decide_eq_true hw, (byok_fee_telescopes (World.opening_fresh _ _ _) run).1⟩

end ZeroRouter
