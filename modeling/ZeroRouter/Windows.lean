import ZeroRouter.Migration
import ZeroRouter.Db.Admission

/-!
# Credit-limit windows

A key's credit limit resets daily, weekly, monthly, or not at all.  Migration 0023
keeps each key's spend by UTC day and for its lifetime; the month is 0019's.
Admission and the portal each read the counter the key's cadence names, in SQL
written separately.

0023 is rolled out as 0019 was: under a lock on `usage_events`, over a ledger that
keeps taking inserts before and after it.
-/

namespace ZeroRouter

open Relational

/-! ## The two reads -/

/-- `portal.rs` `CREDIT_LIMIT_USED_SQL`. -/
def Db.creditLimitUsed (db : Db) (now : Timestamp) (key : ApiKey) : Option Decimal :=
  match key.creditLimitUsd, key.creditLimitWindow with
  | none, _ => none
  | some _, none =>
      some (((db.usageKeyTotalSpend.find fun row => row.apiKeyId = key.id).map
        UsageKeyTotalSpend.spendUsd).getD 0)
  | some _, some .monthly =>
      some (sumWhere (fun row => row.apiKeyId = key.id ∧ usageEventUtcMonth now ≤ row.month)
        UsageKeyMonthSpend.spendUsd db.usageKeyMonthSpend.rows)
  | some _, some cadence =>
      let firstDay :=
        match cadence with
        | .daily => usageEventUtcDay now
        | _ => Civil.mondayOf (Civil.dayOf now)
      some (sumWhere (fun row => row.apiKeyId = key.id ∧ firstDay ≤ row.day)
        UsageKeyDaySpend.spendUsd db.usageKeyDaySpend.rows)

/-- What admission compares with the presenting key's limit; a key without one is
    compared with nothing. -/
def Db.comparedWindowSpend (db : Db) (now : Timestamp) (presented : AuthenticatedKey)
    (keyState : KeyState) : Option Decimal :=
  keyState.creditLimitUsd.map fun _ =>
    (db.settledUsage now presented keyState.spendWindow).windowSpend keyState.creditLimitWindow

/-! ## Rolling 0023 out -/

namespace Windows

/-- Where 0023 stands; it holds its lock in the middle three. -/
inductive Phase where
  | unmigrated
  | triggered
  | dayBackfilled
  | backfilled
  | windowed
  deriving DecidableEq, Repr

def Phase.isLocked : Phase → Bool
  | .triggered | .dayBackfilled | .backfilled => true
  | .unmigrated | .windowed => false

def Phase.hasDays : Phase → Bool
  | .unmigrated | .triggered => false
  | .dayBackfilled | .backfilled | .windowed => true

def Phase.hasTotals : Phase → Bool
  | .unmigrated | .triggered | .dayBackfilled => false
  | .backfilled | .windowed => true

/-- 0023 `accrue_usage_key_spend_windows`, its first statement. -/
def Phase.accrueDay (phase : Phase) (days : Table usageKeyDaySpendTable) (new : UsageEvent) :
    Except Violation (Table usageKeyDaySpendTable) :=
  match phase with
  | .unmigrated => .ok days
  | _ => accrueUsageKeyDaySpend days new

/-- And its second. -/
def Phase.accrueTotal (phase : Phase) (totals : Table usageKeyTotalSpendTable)
    (new : UsageEvent) : Except Violation (Table usageKeyTotalSpendTable) :=
  match phase with
  | .unmigrated => .ok totals
  | _ => accrueUsageKeyTotalSpend totals new

/-- The backfill's `GROUP BY` key and day. -/
def dayBackfillRows (events : List UsageEvent) : List UsageKeyDaySpend :=
  (daySpend.buckets events).map fun bucket =>
    { apiKeyId := bucket.1
      day := bucket.2
      spendUsd := daySpend.grouped events bucket }

/-- The backfill's `GROUP BY` key. -/
def totalBackfillRows (events : List UsageEvent) : List UsageKeyTotalSpend :=
  (totalSpend.buckets events).map fun apiKeyId =>
    { apiKeyId
      spendUsd := totalSpend.grouped events apiKeyId }

/-- An insert in flight, with the triggers its statement met. -/
structure PendingInsert where
  rollout : Rollout.PendingInsert
  ranIn : Phase
  deriving DecidableEq, Repr

/-- The database, with 0019 and 0027 at `monthly` and 0023 at `windows`. -/
structure State where
  monthly : Rollout.Phase
  windows : Phase
  db : Db
  inFlight : List PendingInsert

inductive Action where
  | insert (event : UsageEvent)
  | commit (i : Nat)
  | rollback (i : Nat)
  /-- A step of 0019 or 0027. -/
  | migrate (a : Rollout.Action)
  | createTrigger
  | backfillDays
  | backfillTotals
  | commitWindows
  | abortWindows
  /-- Whatever a customer or an operator makes of `api_keys`. -/
  | editKeys (apiKeys : Table apiKeysTable)

namespace State

/-- What 0019 and 0027 see. -/
def rollout (s : State) : Rollout.State where
  phase := s.monthly
  usageEvents := s.db.usageEvents
  usageKeyMonthSpend := s.db.usageKeyMonthSpend
  inFlight := s.inFlight.map PendingInsert.rollout

/-- Migrations run in the order of their numbers. -/
def mayMigrate (s : State) : Rollout.Action → Bool
  | .insert _ | .commit _ | .rollback _ => false
  | .createTrigger | .backfill | .commitMonthly | .abortMonthly => s.windows = .unmigrated
  | .alter | .commitAllowance | .abortAllowance => s.windows = .windowed

/-- What a step of 0019 or 0027 leaves. -/
def migrated (s : State) (r : Rollout.State) : State :=
  { s with
    monthly := r.phase
    db := { s.db with usageKeyMonthSpend := r.usageKeyMonthSpend } }

/-- What an insert's transaction makes visible, or what refuses it. -/
def applyInsert (s : State) (pending : PendingInsert) : Except SqlError State := do
  let event := pending.rollout.event
  let usageEvents ← liftViolation (s.db.usageEvents.insert event)
  ensure (∃ key ∈ s.db.apiKeys, key.id = event.apiKeyId) SqlError.foreignKeyViolation
  let month ← liftViolation (pending.rollout.ranIn.accrue s.db.usageKeyMonthSpend event)
  let day ← liftViolation (pending.ranIn.accrueDay s.db.usageKeyDaySpend event)
  let total ← liftViolation (pending.ranIn.accrueTotal s.db.usageKeyTotalSpend event)
  return { s with
    db := { s.db with
      usageEvents
      usageKeyMonthSpend := month
      usageKeyDaySpend := day
      usageKeyTotalSpend := total } }

/-- An insert in flight ends; a refused one leaves nothing. -/
def endInsert (s : State) (i : Nat) (result : Except SqlError State) : State :=
  match result with
  | .ok applied => { applied with inFlight := s.inFlight.eraseIdx i }
  | .error _ => { s with inFlight := s.inFlight.eraseIdx i }

/-- 0023 fails or is rolled back, and its tables with it. -/
def abandonWindows (s : State) : State :=
  { s with
    windows := .unmigrated
    db := { s.db with usageKeyDaySpend := .empty, usageKeyTotalSpend := .empty } }

end State

/-- One step; `none` when the action is not enabled. -/
def step (s : State) : Action → Option State
  | .insert event =>
      if s.windows.isLocked then none
      else (Rollout.step s.rollout (.insert event)).map fun _ =>
        { s with inFlight := s.inFlight ++
            [{ rollout := { ranIn := s.monthly, event }, ranIn := s.windows }] }
  | .commit i => s.inFlight[i]?.map fun pending => s.endInsert i (s.applyInsert pending)
  | .rollback i => s.inFlight[i]?.map fun _ => { s with inFlight := s.inFlight.eraseIdx i }
  | .migrate a =>
      if s.mayMigrate a then (Rollout.step s.rollout a).map s.migrated else none
  | .createTrigger =>
      if s.monthly = .monthly ∧ s.windows = .unmigrated ∧ s.inFlight = [] then
        some { s with windows := .triggered }
      else none
  | .backfillDays =>
      if s.windows = .triggered then
        match s.db.usageKeyDaySpend.insertAll (dayBackfillRows s.db.usageEvents.rows) with
        | .ok usageKeyDaySpend =>
            some { s with windows := .dayBackfilled, db := { s.db with usageKeyDaySpend } }
        | .error _ => some s.abandonWindows
      else none
  | .backfillTotals =>
      if s.windows = .dayBackfilled then
        match s.db.usageKeyTotalSpend.insertAll (totalBackfillRows s.db.usageEvents.rows) with
        | .ok usageKeyTotalSpend =>
            some { s with windows := .backfilled, db := { s.db with usageKeyTotalSpend } }
        | .error _ => some s.abandonWindows
      else none
  | .commitWindows =>
      if s.windows = .backfilled then some { s with windows := .windowed } else none
  | .abortWindows => if s.windows.isLocked then some s.abandonWindows else none
  | .editKeys apiKeys => some { s with db := { s.db with apiKeys } }

/-- A ledger of any length, before 0019. -/
structure State.Opening (s : State) : Prop where
  rollout : s.rollout.Opening
  windows : s.windows = .unmigrated
  usageKeyDaySpend : s.db.usageKeyDaySpend = .empty
  usageKeyTotalSpend : s.db.usageKeyTotalSpend = .empty

end Windows

end ZeroRouter
