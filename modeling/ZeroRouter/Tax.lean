import ZeroRouter.System
import ZeroRouter.Billing

/-!
# Redemption tax

`src/router/src/redemption_tax.rs`: the periods a sweep opens and prices, and
`collect_period`, which debits a priced period from its user's balance.  The sweep
runs beside the metering path, on the same database.
-/

namespace ZeroRouter

open Relational

/-- `RedemptionTaxMode`. -/
inductive RedemptionTaxMode where
  | off
  | dryRun
  | collect
  deriving DecidableEq, Repr

/-- A row of `redemption_tax_periods`, as collection reads and writes it. -/
structure RedemptionTaxPeriod where
  id : Uuid
  userId : Uuid
  taxUsd : Option Decimal
  collectedUsd : Option Decimal
  shortfallUsd : Option Decimal
  debitedAt : Option Timestamp
  deriving DecidableEq, Repr

/-- `redemption_tax_collection_is_clamped`; a comparison with `NULL` passes. -/
def RedemptionTaxPeriod.collectionIsClamped (period : RedemptionTaxPeriod) : Prop :=
  ∀ collected ∈ period.collectedUsd, 0 ≤ collected ∧
    ∀ shortfall ∈ period.shortfallUsd, 0 ≤ shortfall ∧
      ∀ tax ∈ period.taxUsd, collected + shortfall = tax

instance (period : RedemptionTaxPeriod) : Decidable period.collectionIsClamped :=
  inferInstanceAs (Decidable (∀ _ ∈ _, _ ∧ ∀ _ ∈ _, _ ∧ ∀ _ ∈ _, _))

/-- `redemption_tax_periods` (0025). -/
def redemptionTaxPeriodsTable : Schema RedemptionTaxPeriod :=
  .keyed RedemptionTaxPeriod.id RedemptionTaxPeriod.collectionIsClamped

/-- What a collection takes: the tax, as far as the balance goes. -/
def taxCollectable (taxUsd balance : Decimal) : Decimal := min taxUsd (max balance 0)

/-- The row a collection inserts. -/
def taxEntry (userId : Uuid) (collect : Decimal) (periodId : Uuid) (balanceAfter : Decimal) :
    CreditLedger where
  userId := userId
  entryType := .tax
  amountUsd := -collect
  balanceAfterUsd := balanceAfter
  stripeSessionId := none
  stripePaymentIntentId := none
  requestId := none
  note := some s!"redemption tax period {periodId}"

/-- The debit of `collect_period`: what it took. -/
def Db.collectTax (db : Db) (userId : Uuid) (taxUsd : Decimal) (periodId : Uuid) :
    Except SqlError (Decimal × Db) :=
  if 0 < taxUsd then do
    let balance ← db.balance userId
    let collect := taxCollectable taxUsd balance
    if 0 < collect then
      let db ← db.moveBalance userId false .rowNotFound (-collect) (taxEntry userId collect periodId)
      return (collect, db)
    else return (collect, db)
  else .ok (0, db)

/-- `collect_period`: what was collected and what could not be, or `none` if the
    period is unpriced or was collected already. -/
def Db.collectPeriod (db : Db) (periods : Table redemptionTaxPeriodsTable) (now : Timestamp)
    (periodId : Uuid) :
    Except SqlError (Option (Decimal × Decimal) × Db × Table redemptionTaxPeriodsTable) :=
  match periods.find fun period => period.id = periodId ∧ period.debitedAt = none with
  | none => .ok (none, db, periods)
  | some period =>
      match period.taxUsd with
      | none => .ok (none, db, periods)
      | some taxUsd => do
          let (collected, db) ← db.collectTax period.userId taxUsd periodId
          let periods ← liftViolation (periods.updateWhere (fun row => row.id = periodId) fun row =>
            { row with
              debitedAt := some now
              collectedUsd := some collected
              shortfallUsd := some (taxUsd - collected) })
          return (some (collected, taxUsd - collected), db, periods)

namespace Tax

/-- The metering system with the sweep's periods beside it. -/
structure World where
  metering : ZeroRouter.World
  mode : RedemptionTaxMode
  periods : Table redemptionTaxPeriodsTable

inductive Action where
  | metering (action : ZeroRouter.Action)
  | openPeriod (id userId : Uuid)
  | pricePeriod (id : Uuid) (taxCents : Nat)
  | collectPeriod (now : Timestamp) (periodId : Uuid) (fate : Fate)

/-- `open_periods`' insert, with its foreign key. -/
def World.runOpenPeriod (w : World) (id userId : Uuid) : World :=
  let inserted : Except SqlError (Table redemptionTaxPeriodsTable) := do
    ensure (∃ user ∈ w.metering.db.users, user.id = userId) SqlError.foreignKeyViolation
    liftViolation (w.periods.insert
      { id, userId, taxUsd := none, collectedUsd := none, shortfallUsd := none, debitedAt := none })
  match inserted with
  | .ok periods => { w with periods }
  | .error _ => w

/-- `price_periods`' freeze: a price once set stays. -/
def World.runPricePeriod (w : World) (id : Uuid) (taxCents : Nat) : World :=
  match w.periods.updateWhere (fun period => period.id = id ∧ period.taxUsd = none)
      fun period => { period with taxUsd := some ((taxCents : Decimal) / 100) } with
  | .ok periods => { w with periods }
  | .error _ => w

/-- `collect_period`, its transaction holding the user's lock throughout. -/
def World.runCollectPeriod (w : World) (now : Timestamp) (periodId : Uuid) (fate : Fate) : World :=
  if fate.committed then
    match w.metering.db.collectPeriod w.periods now periodId with
    | .ok (_, db, periods) => { w with metering := { w.metering with db }, periods }
    | .error _ => w
  else w

/-- One step; `none` when the action is not enabled. -/
def step (w : World) : Action → Option World
  | .metering action =>
      (ZeroRouter.step w.metering action).map fun metering => { w with metering }
  | .openPeriod id userId => if w.mode = .off then none else some (w.runOpenPeriod id userId)
  | .pricePeriod id taxCents =>
      if w.mode = .off then none else some (w.runPricePeriod id taxCents)
  | .collectPeriod now periodId fate =>
      if w.mode = .collect ∧ now ≤ w.metering.clock then
        some (w.runCollectPeriod now periodId fate)
      else none

abbrev Reaches (C : World → Action → Prop) : World → World → Prop := Transition.Steps step C

end Tax

end ZeroRouter
