import ZeroRouter.Proofs.Invariant
import ZeroRouter.Db.Rollups

/-!
# What the running totals say

Every derived total is the ledger's in every reachable state, so what admission
and settlement read from a rollup is a scan of `usage_events` over its window.
-/

namespace ZeroRouter

open Relational

section Step

variable {w w' : World} {a : Action}

/-- A step leaves metering alone, or commits one metering row with its accruals. -/
theorem metering_step (h : Change w a w') :
    (w'.db.usageEvents = w.db.usageEvents ∧
      w'.db.usageKeyMonthSpend = w.db.usageKeyMonthSpend ∧
      w'.db.usageKeyDaySpend = w.db.usageKeyDaySpend ∧
      w'.db.usageKeyTotalSpend = w.db.usageKeyTotalSpend) ∨
    ∃ event, w.db.usageEvents.insert event = .ok w'.db.usageEvents ∧
      accrueUsageKeyMonthSpend w.db.usageKeyMonthSpend event = .ok w'.db.usageKeyMonthSpend ∧
      accrueUsageKeyDaySpend w.db.usageKeyDaySpend event = .ok w'.db.usageKeyDaySpend ∧
      accrueUsageKeyTotalSpend w.db.usageKeyTotalSpend event = .ok w'.db.usageKeyTotalSpend ∧
      w'.db.apiKeys = w.db.apiKeys ∧ event.ts ≤ w.clock ∧ Metered w a w' event := by
  cases h with
  | stay | ticked | batched | opened | admitted | parked | persisted | released | discarded
  | keyAdded | keyDisabled => exact .inl ⟨rfl, rfl, rfl, rfl⟩
  | posted _ _ db moved =>
      obtain ⟨user, users, ledger, -, -, -, -, -, rfl⟩ := Db.moveBalance_ok moved
      exact .inl ⟨rfl, rfl, rfl, rfl⟩
  | settled call called timely reservation event db effect =>
      exact .inr ⟨event, effect.events, effect.month, effect.day, effect.total, effect.apiKeys,
        effect.eventTs ▸ timely, .settled call called timely reservation effect rfl⟩
  | metered session mem free event timely requestId apiKeyId costless house db inserted =>
      obtain ⟨events, month, day, total, hevents, -, hmonth, hday, htotal, rfl⟩ :=
        Db.insertUsageEvent_ok inserted
      exact .inr ⟨event, hevents, hmonth, hday, htotal, rfl, timely,
        .free session mem free requestId apiKeyId costless house⟩

theorem Db.Tallied.step (tallied : w.db.Tallied) (h : Change w a w') : w'.db.Tallied := by
  rcases metering_step h with
    ⟨events, month, day, total⟩ | ⟨event, events, month, day, total, -, -, -⟩
  · constructor
    · rw [events, month]
      exact tallied.monthSpend
    · rw [events, month]
      exact tallied.monthByokCatalog
    · rw [events, day]
      exact tallied.daySpend
    · rw [events, total]
      exact tallied.totalSpend
  · exact tallied.metered events month day total

/-- Once a key has an owner, no step changes whose it is. -/
theorem owns_step_iff (h : Change w a w') {apiKeyId : Uuid}
    (owned : ∃ owner, w.db.owns owner apiKeyId) (userId : Uuid) :
    w'.db.owns userId apiKeyId ↔ w.db.owns userId apiKeyId := by
  refine ⟨fun later => ?_, owns_step h⟩
  obtain ⟨owner, owned⟩ := owned
  rw [Db.owns_unique later (owns_step h owned)]
  exact owned

end Step

theorem Db.Tallied.opening {w : World} (h : w.Opening) : w.db.Tallied := by
  constructor
  · rw [h.usageKeyMonthSpend, h.usageEvents]
    exact .nil
  · rw [h.usageKeyMonthSpend, h.usageEvents]
    exact .nil
  · rw [h.usageKeyDaySpend, h.usageEvents]
    exact .nil
  · rw [h.usageKeyTotalSpend, h.usageEvents]
    exact .nil

/-- The allowance a settlement finds consumed is its user's catalog cost since the
    month began. -/
theorem Db.Tallied.userMonthlyByokCatalog {db : Db} (tallied : db.Tallied) (now : Timestamp)
    (userId : Uuid) :
    db.userMonthlyByokCatalog now userId =
      sumWhere (fun event => db.owns userId event.apiKeyId ∧ usageEventUtcMonth now ≤ event.ts)
        UsageEvent.byokCatalog db.usageEvents.rows :=
  monthTotal_from (P := db.owns userId) tallied.monthByokCatalog rfl rfl now

end ZeroRouter
