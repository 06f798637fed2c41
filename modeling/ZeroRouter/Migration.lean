import ZeroRouter.Db.Rollups
import ZeroRouter.Lib.Run

/-!
# Rolling out the monthly rollup

Migrations 0019 and 0027 are applied to a ledger that keeps taking inserts.  Each
migration is one transaction that holds a lock on `usage_events` no `INSERT`
passes, so taking it waits for the inserts in flight and every later one waits for
the migration to end.

An insert is two steps.  Its statement runs, and meets the trigger of the schema
it runs under; its transaction then commits, is rolled back, or is refused by a
constraint.  The rows it wrote become visible, all together, when it commits.
-/

namespace ZeroRouter

open Relational

namespace Rollout

/-- Where the schema stands.  `triggered` and `backfilled` are inside 0019's
    transaction, `altered` inside 0027's. -/
inductive Phase where
  | unmigrated
  | triggered
  | backfilled
  | monthly
  | altered
  | allowance
  deriving DecidableEq, Repr

/-- A migration holds its lock on `usage_events`. -/
def Phase.isLocked : Phase → Bool
  | .triggered | .backfilled | .altered => true
  | .unmigrated | .monthly | .allowance => false

/-- The rollup exists and is filled. -/
def Phase.isRolledUp : Phase → Bool
  | .unmigrated | .triggered => false
  | .backfilled | .monthly | .altered | .allowance => true

/-- A writer can name `usage_events.byok_catalog_usd`. -/
def Phase.hasByokCatalog : Phase → Bool
  | .allowance => true
  | _ => false

/-- 0019 `accrue_usage_key_month_spend`, which 0027 replaces.  A rollup row has no
    `byok_catalog_usd` yet; it stands here as the `0` that 0027's `DEFAULT` will
    give every row there is. -/
def accrueUsageKeyMonthSpend0019 (rollup : Table usageKeyMonthSpendTable) (new : UsageEvent) :
    Except Violation (Table usageKeyMonthSpendTable) :=
  rollup.upsert
    (fun row => row.apiKeyId = new.apiKeyId ∧ row.month = usageEventUtcMonth new.ts)
    { apiKeyId := new.apiKeyId
      month := usageEventUtcMonth new.ts
      spendUsd := new.costUsd
      byokCatalogUsd := 0 }
    fun row => { row with spendUsd := row.spendUsd + new.costUsd }

/-- The trigger an `INSERT` meets. -/
def Phase.accrue (phase : Phase) (rollup : Table usageKeyMonthSpendTable) (new : UsageEvent) :
    Except Violation (Table usageKeyMonthSpendTable) :=
  match phase with
  | .unmigrated => .ok rollup
  | .triggered | .backfilled | .monthly => accrueUsageKeyMonthSpend0019 rollup new
  | .altered | .allowance => accrueUsageKeyMonthSpend rollup new

/-- 0019's backfill: `SELECT … SUM(cost_usd) … GROUP BY` key and month. -/
def backfillRows (events : List UsageEvent) : List UsageKeyMonthSpend :=
  (monthSpend.buckets events).map fun bucket =>
    { apiKeyId := bucket.1
      month := bucket.2
      spendUsd := monthSpend.grouped events bucket
      byokCatalogUsd := 0 }

/-- An insert whose statement has run and whose transaction has not ended. -/
structure PendingInsert where
  ranIn : Phase
  event : UsageEvent
  deriving DecidableEq, Repr

structure State where
  phase : Phase
  usageEvents : Table usageEventsTable
  usageKeyMonthSpend : Table usageKeyMonthSpendTable
  inFlight : List PendingInsert

inductive Action where
  | insert (event : UsageEvent)
  | commit (i : Nat)
  | rollback (i : Nat)
  | createTrigger
  | backfill
  | commitMonthly
  | abortMonthly
  | alter
  | commitAllowance
  | abortAllowance
  deriving DecidableEq, Repr

namespace State

/-- What an insert's transaction makes visible, or the constraint that refuses it. -/
def applyInsert (s : State) (pending : PendingInsert) : Except Violation State := do
  let usageEvents ← s.usageEvents.insert pending.event
  let usageKeyMonthSpend ← pending.ranIn.accrue s.usageKeyMonthSpend pending.event
  return { s with usageEvents, usageKeyMonthSpend }

/-- An insert in flight ends; a refused one leaves nothing. -/
def endInsert (s : State) (i : Nat) (result : Except Violation State) : State :=
  match result with
  | .ok applied => { applied with inFlight := s.inFlight.eraseIdx i }
  | .error _ => { s with inFlight := s.inFlight.eraseIdx i }

/-- 0019 fails or is rolled back, and its table with it. -/
def abandonMonthly (s : State) : State :=
  { s with phase := .unmigrated, usageKeyMonthSpend := .empty }

end State

/-- One step; `none` when the action is not enabled. -/
def step (s : State) : Action → Option State
  | .insert event =>
      if s.phase.isLocked ∨ (event.byokCatalogUsd ≠ none ∧ s.phase.hasByokCatalog = false) then none
      else some { s with inFlight := s.inFlight ++ [{ ranIn := s.phase, event }] }
  | .commit i => s.inFlight[i]?.map fun pending => s.endInsert i (s.applyInsert pending)
  | .rollback i => s.inFlight[i]?.map fun _ => { s with inFlight := s.inFlight.eraseIdx i }
  -- Taking the lock waits for every insert in flight.
  | .createTrigger =>
      if s.phase = .unmigrated ∧ s.inFlight = [] then some { s with phase := .triggered } else none
  | .backfill =>
      if s.phase = .triggered then
        match s.usageKeyMonthSpend.insertAll (backfillRows s.usageEvents.rows) with
        | .ok usageKeyMonthSpend => some { s with phase := .backfilled, usageKeyMonthSpend }
        | .error _ => some s.abandonMonthly
      else none
  | .commitMonthly => if s.phase = .backfilled then some { s with phase := .monthly } else none
  | .abortMonthly =>
      if s.phase = .triggered ∨ s.phase = .backfilled then some s.abandonMonthly else none
  | .alter =>
      if s.phase = .monthly ∧ s.inFlight = [] then some { s with phase := .altered } else none
  | .commitAllowance => if s.phase = .altered then some { s with phase := .allowance } else none
  | .abortAllowance => if s.phase = .altered then some { s with phase := .monthly } else none

/-- A ledger of any length, before 0019: no rollup, and no BYOK catalog column. -/
structure State.Opening (s : State) : Prop where
  phase : s.phase = .unmigrated
  inFlight : s.inFlight = []
  usageKeyMonthSpend : s.usageKeyMonthSpend = .empty
  noCatalog : ∀ event ∈ s.usageEvents, event.byokCatalogUsd = none

end Rollout

end ZeroRouter
