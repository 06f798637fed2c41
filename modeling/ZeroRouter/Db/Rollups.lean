import ZeroRouter.Db.Ledger
import ZeroRouter.Lib.Rollup

/-!
# The derived totals beside `usage_events`

Migrations 0019, 0023 and 0027 keep each key's spend by UTC month, by UTC day and
for its lifetime, and its BYOK catalog cost by UTC month.  Each is a
`Relational.Rollup` of the metering rows, accrued by the trigger that fires in
the inserting transaction.
-/

namespace ZeroRouter

open Relational

/-- `COALESCE(byok_catalog_usd, 0)`. -/
def UsageEvent.byokCatalog (event : UsageEvent) : Decimal := event.byokCatalogUsd.getD 0

def UsageEvent.monthBucket (event : UsageEvent) : Uuid × Timestamp :=
  (event.apiKeyId, usageEventUtcMonth event.ts)

def UsageKeyMonthSpend.bucket (row : UsageKeyMonthSpend) : Uuid × Timestamp :=
  (row.apiKeyId, row.month)

/-- 0019's measure. -/
def monthSpend : Rollup UsageKeyMonthSpend UsageEvent (Uuid × Timestamp) Decimal where
  bucketOf := UsageKeyMonthSpend.bucket
  total := UsageKeyMonthSpend.spendUsd
  bucket := UsageEvent.monthBucket
  amount := UsageEvent.costUsd

/-- 0027's measure, over the same buckets. -/
def monthByokCatalog : Rollup UsageKeyMonthSpend UsageEvent (Uuid × Timestamp) Decimal where
  bucketOf := UsageKeyMonthSpend.bucket
  total := UsageKeyMonthSpend.byokCatalogUsd
  bucket := UsageEvent.monthBucket
  amount := UsageEvent.byokCatalog

def daySpend : Rollup UsageKeyDaySpend UsageEvent (Uuid × Int) Decimal where
  bucketOf row := (row.apiKeyId, row.day)
  total := UsageKeyDaySpend.spendUsd
  bucket event := (event.apiKeyId, usageEventUtcDay event.ts)
  amount := UsageEvent.costUsd

def totalSpend : Rollup UsageKeyTotalSpend UsageEvent Uuid Decimal where
  bucketOf := UsageKeyTotalSpend.apiKeyId
  total := UsageKeyTotalSpend.spendUsd
  bucket := UsageEvent.apiKeyId
  amount := UsageEvent.costUsd

/-! ## Accrual keeps the totals -/

section Accrual

variable {events : List UsageEvent} {event : UsageEvent}

theorem monthSpend_accrue {t t' : Table usageKeyMonthSpendTable}
    (tallies : monthSpend.Tallies t.rows events)
    (h : accrueUsageKeyMonthSpend t event = .ok t') :
    monthSpend.Tallies t'.rows (events ++ [event]) :=
  tallies.upsert h (fun _ => Prod.mk_inj.symm) (fun _ _ same => same) ⟨rfl, rfl⟩
    fun _ => ⟨rfl, rfl⟩

theorem monthByokCatalog_accrue {t t' : Table usageKeyMonthSpendTable}
    (tallies : monthByokCatalog.Tallies t.rows events)
    (h : accrueUsageKeyMonthSpend t event = .ok t') :
    monthByokCatalog.Tallies t'.rows (events ++ [event]) :=
  tallies.upsert h (fun _ => Prod.mk_inj.symm) (fun _ _ same => same) ⟨rfl, rfl⟩
    fun _ => ⟨rfl, rfl⟩

theorem daySpend_accrue {t t' : Table usageKeyDaySpendTable}
    (tallies : daySpend.Tallies t.rows events) (h : accrueUsageKeyDaySpend t event = .ok t') :
    daySpend.Tallies t'.rows (events ++ [event]) :=
  tallies.upsert h (fun _ => Prod.mk_inj.symm) (fun _ _ same => same) ⟨rfl, rfl⟩
    fun _ => ⟨rfl, rfl⟩

theorem totalSpend_accrue {t t' : Table usageKeyTotalSpendTable}
    (tallies : totalSpend.Tallies t.rows events) (h : accrueUsageKeyTotalSpend t event = .ok t') :
    totalSpend.Tallies t'.rows (events ++ [event]) :=
  tallies.upsert h (fun _ => Iff.rfl) (fun _ _ same => same) ⟨rfl, rfl⟩ fun _ => ⟨rfl, rfl⟩

/-- Every derived total of the database is the ledger's. -/
structure Db.Tallied (db : Db) : Prop where
  monthSpend : monthSpend.Tallies db.usageKeyMonthSpend.rows db.usageEvents.rows
  monthByokCatalog : monthByokCatalog.Tallies db.usageKeyMonthSpend.rows db.usageEvents.rows
  daySpend : daySpend.Tallies db.usageKeyDaySpend.rows db.usageEvents.rows
  totalSpend : totalSpend.Tallies db.usageKeyTotalSpend.rows db.usageEvents.rows

/-- A metering row and its accruals commit together. -/
theorem Db.Tallied.metered {db db' : Db} (tallied : db.Tallied)
    (events : db.usageEvents.insert event = .ok db'.usageEvents)
    (month : accrueUsageKeyMonthSpend db.usageKeyMonthSpend event = .ok db'.usageKeyMonthSpend)
    (day : accrueUsageKeyDaySpend db.usageKeyDaySpend event = .ok db'.usageKeyDaySpend)
    (total : accrueUsageKeyTotalSpend db.usageKeyTotalSpend event = .ok db'.usageKeyTotalSpend) :
    db'.Tallied := by
  have appended := (Table.insert_ok events).1
  constructor
  · rw [appended]
    exact monthSpend_accrue tallied.monthSpend month
  · rw [appended]
    exact monthByokCatalog_accrue tallied.monthByokCatalog month
  · rw [appended]
    exact daySpend_accrue tallied.daySpend day
  · rw [appended]
    exact totalSpend_accrue tallied.totalSpend total

end Accrual

/-! ## What a range of buckets answers -/

section Windows

variable {events : List UsageEvent} {P : Uuid → Prop} [DecidablePred P]

/-- A month bucket is not before the current month exactly when the event is not:
    later months count on both sides. -/
theorem month_ge_iff (now : Timestamp) (event : UsageEvent) :
    usageEventUtcMonth now ≤ usageEventUtcMonth event.ts ↔ usageEventUtcMonth now ≤ event.ts :=
  Civil.utcMonth.start_le_iff now event.ts

/-- Summing the month buckets from the current one up is scanning the events from
    the start of the current month. -/
theorem monthTotal_from {R : Rollup UsageKeyMonthSpend UsageEvent (Uuid × Timestamp) Decimal}
    {rows : List UsageKeyMonthSpend} (tallies : R.Tallies rows events)
    (rowBucket : R.bucketOf = UsageKeyMonthSpend.bucket)
    (eventBucket : R.bucket = UsageEvent.monthBucket) (now : Timestamp) :
    sumWhere (fun row => P row.apiKeyId ∧ usageEventUtcMonth now ≤ row.month) R.total rows =
      sumWhere (fun event => P event.apiKeyId ∧ usageEventUtcMonth now ≤ event.ts) R.amount
        events := by
  have scan := tallies fun bucket => P bucket.1 ∧ usageEventUtcMonth now ≤ bucket.2
  simp only [rowBucket, eventBucket] at scan
  refine scan.trans (sumWhere_congr (fun event _ => ?_) fun _ _ _ => rfl)
  exact and_congr_right fun _ => month_ge_iff now event

/-- The instant a day begins, UTC. -/
def dayStart (day : Int) : Timestamp := day * Civil.dayLength

theorem day_le_iff (day : Int) (ts : Timestamp) :
    day ≤ usageEventUtcDay ts ↔ dayStart day ≤ ts :=
  Int.le_ediv_iff_mul_le (by decide)

/-- Summing a key's day buckets from one day up is scanning its events from the
    start of that day. -/
theorem dayTotal_from {rows : List UsageKeyDaySpend} (tallies : daySpend.Tallies rows events)
    (day : Int) :
    sumWhere (fun row => P row.apiKeyId ∧ day ≤ row.day) UsageKeyDaySpend.spendUsd rows =
      sumWhere (fun event => P event.apiKeyId ∧ dayStart day ≤ event.ts) UsageEvent.costUsd
        events := by
  refine (tallies fun bucket => P bucket.1 ∧ day ≤ bucket.2).trans
    (sumWhere_congr (fun event _ => ?_) fun _ _ _ => rfl)
  exact and_congr_right fun _ => day_le_iff day event.ts

end Windows

end ZeroRouter
