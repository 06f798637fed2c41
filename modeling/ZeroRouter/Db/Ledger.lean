import ZeroRouter.Db.Schema

/-!
# The two append-only ledgers

Every `usage_events` row enters through `Db.insertUsageEvent`, which runs the
accrual triggers of migrations 0019, 0023 and 0027 in the inserting
transaction.  Every change of a balance goes through `Db.moveBalance`, which
pairs it with a `credit_ledger` row carrying the same amount.
-/

namespace ZeroRouter

open Relational

/-- The `SQLSTATE` a refused write surfaces as. -/
def liftViolation {α : Type} : Except Violation α → Except SqlError α
  | .ok a => .ok a
  | .error .check => .error .checkViolation
  | .error .unique => .error .uniqueViolation

@[simp] theorem liftViolation_eq_ok {α : Type} {x : Except Violation α} {a : α} :
    liftViolation x = .ok a ↔ x = .ok a := by
  rcases x with (_ | _) | _ <;> simp [liftViolation]

/-! ## Metering -/

/-- 0027 `accrue_usage_key_month_spend`. -/
def accrueUsageKeyMonthSpend (rollup : Table usageKeyMonthSpendTable) (new : UsageEvent) :
    Except Violation (Table usageKeyMonthSpendTable) :=
  rollup.upsert
    (fun row => row.apiKeyId = new.apiKeyId ∧ row.month = usageEventUtcMonth new.ts)
    { apiKeyId := new.apiKeyId
      month := usageEventUtcMonth new.ts
      spendUsd := new.costUsd
      byokCatalogUsd := new.byokCatalogUsd.getD 0 }
    fun row =>
      { row with
        spendUsd := row.spendUsd + new.costUsd
        byokCatalogUsd := row.byokCatalogUsd + new.byokCatalogUsd.getD 0 }

/-- 0023 `accrue_usage_key_spend_windows`, its daily half. -/
def accrueUsageKeyDaySpend (rollup : Table usageKeyDaySpendTable) (new : UsageEvent) :
    Except Violation (Table usageKeyDaySpendTable) :=
  rollup.upsert (fun row => row.apiKeyId = new.apiKeyId ∧ row.day = usageEventUtcDay new.ts)
    { apiKeyId := new.apiKeyId, day := usageEventUtcDay new.ts, spendUsd := new.costUsd }
    fun row => { row with spendUsd := row.spendUsd + new.costUsd }

/-- 0023 `accrue_usage_key_spend_windows`, its lifetime half. -/
def accrueUsageKeyTotalSpend (rollup : Table usageKeyTotalSpendTable) (new : UsageEvent) :
    Except Violation (Table usageKeyTotalSpendTable) :=
  rollup.upsert (fun row => row.apiKeyId = new.apiKeyId)
    { apiKeyId := new.apiKeyId, spendUsd := new.costUsd }
    fun row => { row with spendUsd := row.spendUsd + new.costUsd }

/-- `INSERT INTO usage_events`, with its foreign key and `AFTER INSERT` triggers. -/
def Db.insertUsageEvent (db : Db) (event : UsageEvent) : Except SqlError Db := do
  let usageEvents ← liftViolation (db.usageEvents.insert event)
  ensure (∃ key ∈ db.apiKeys, key.id = event.apiKeyId) SqlError.foreignKeyViolation
  let month ← liftViolation (accrueUsageKeyMonthSpend db.usageKeyMonthSpend event)
  let day ← liftViolation (accrueUsageKeyDaySpend db.usageKeyDaySpend event)
  let total ← liftViolation (accrueUsageKeyTotalSpend db.usageKeyTotalSpend event)
  return { db with
    usageEvents
    usageKeyMonthSpend := month
    usageKeyDaySpend := day
    usageKeyTotalSpend := total }

/-- An inserted event is checked, new, and appended; the triggers have run and
    nothing else moved. -/
theorem Db.insertUsageEvent_ok {db db' : Db} {event : UsageEvent}
    (h : db.insertUsageEvent event = .ok db') :
    ∃ events month day total,
      db.usageEvents.insert event = .ok events ∧
      (∃ key ∈ db.apiKeys, key.id = event.apiKeyId) ∧
      accrueUsageKeyMonthSpend db.usageKeyMonthSpend event = .ok month ∧
      accrueUsageKeyDaySpend db.usageKeyDaySpend event = .ok day ∧
      accrueUsageKeyTotalSpend db.usageKeyTotalSpend event = .ok total ∧
      db' = { db with
        usageEvents := events
        usageKeyMonthSpend := month
        usageKeyDaySpend := day
        usageKeyTotalSpend := total } := by
  simp only [Db.insertUsageEvent, bind_eq_ok, liftViolation_eq_ok, ensure_eq_ok] at h
  obtain ⟨events, hevents, _, hkey, month, hmonth, day, hday, total, htotal, hdb⟩ := h
  exact ⟨events, month, day, total, hevents, hkey, hmonth, hday, htotal,
    (Except.ok.inj hdb).symm⟩

/-! ## Balances -/

/-- 0013 `reject_unauthorized_overdraft`: a write may not carry a balance down
    into or within the negative unless the transaction declared a reversal. -/
def overdraftRejected (creditReversal : Bool) (old new : Decimal) : Bool :=
  new < 0 && !creditReversal && new < old

/-- `UPDATE users SET credit_balance_usd = credit_balance_usd + delta … RETURNING`
    followed by the `credit_ledger` row that explains it.  `missing` is the
    caller's answer when the user does not exist; `entry` gets the returned
    balance. -/
def Db.moveBalance (db : Db) (userId : Uuid) (creditReversal : Bool) (missing : SqlError)
    (delta : Decimal) (entry : Decimal → CreditLedger) : Except SqlError Db :=
  match db.users.find (fun user => user.id = userId) with
  | none => .error missing
  | some user => do
      let balanceAfter := user.creditBalanceUsd + delta
      ensure (overdraftRejected creditReversal user.creditBalanceUsd balanceAfter = false)
        (SqlError.raised "users.credit_balance_usd cannot go negative, or further negative")
      let users ← liftViolation (db.users.updateWhere (fun row => row.id = userId)
        fun row => { row with creditBalanceUsd := row.creditBalanceUsd + delta })
      let creditLedger ← liftViolation (db.creditLedger.insert (entry balanceAfter))
      return { db with users, creditLedger }

theorem Db.moveBalance_ok {db db' : Db} {userId : Uuid} {creditReversal : Bool}
    {missing : SqlError} {delta : Decimal} {entry : Decimal → CreditLedger}
    (h : db.moveBalance userId creditReversal missing delta entry = .ok db') :
    ∃ user users ledger,
      user ∈ db.users ∧ user.id = userId ∧
      overdraftRejected creditReversal user.creditBalanceUsd (user.creditBalanceUsd + delta)
        = false ∧
      db.users.updateWhere (fun row => row.id = userId)
        (fun row => { row with creditBalanceUsd := row.creditBalanceUsd + delta }) = .ok users ∧
      db.creditLedger.insert (entry (user.creditBalanceUsd + delta)) = .ok ledger ∧
      db' = { db with users, creditLedger := ledger } := by
  unfold Db.moveBalance at h
  split at h
  · cases h
  · next user found =>
      simp only [bind_eq_ok, liftViolation_eq_ok, ensure_eq_ok] at h
      obtain ⟨_, allowed, users, husers, ledger, hledger, hdb⟩ := h
      obtain ⟨hmem, hid⟩ := Table.find_some found
      exact ⟨user, users, ledger, hmem, hid, allowed, husers, hledger,
        (Except.ok.inj hdb).symm⟩

/-- What a movement does to every user row: the named one moves by `delta`. -/
theorem mem_users_of_moved {users users' : Table usersTable} {userId : Uuid} {delta : Decimal}
    (h : users.updateWhere (fun row => row.id = userId)
      (fun row => { row with creditBalanceUsd := row.creditBalanceUsd + delta }) = .ok users')
    {user : User} :
    user ∈ users' ↔ ∃ old ∈ users, user =
      { old with creditBalanceUsd :=
          old.creditBalanceUsd + if old.id = userId then delta else 0 } := by
  rw [Table.mem_updateWhere h]
  refine exists_congr fun old => and_congr_right fun _ => ?_
  unfold Table.rewrite
  split <;> simp [eq_comm]

end ZeroRouter
