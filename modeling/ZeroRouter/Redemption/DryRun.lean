import ZeroRouter.Redemption.Periods
import ZeroRouter.Tax

/-!
# Modes of the redemption-tax sweep

`src/router/src/redemption_tax.rs` `run_redemption_tax_sweep_once`: nothing runs
under `off`; `dry_run` enrols users, opens periods and prices them; `collect` also
debits what is priced and files what is debited.  Every pass selects its work by
what the columns say, whatever mode wrote them.

Here the transactions of one user's account follow one another.  A schedule says in
which order, over which periods, and with which failures left out, so that one
schedule can be run under two modes.
-/

namespace ZeroRouter

namespace Redemption

/-- One user's rows, the deployment's earliest enrolment stamp, and the tax
    transactions the user's periods have at Stripe, whose reference is the period. -/
structure Account where
  user : UserRow
  ledger : List LedgerRow
  periods : List Period
  activation : Option Timestamp
  filed : List (Nat × String)
  deriving DecidableEq, Repr

/-- What happens to an account; a period is named by the ledger id it ends at. -/
inductive Event where
  /-- A settlement, a purchase, a refund, with its ledger row. -/
  | money (entryType : EntryType) (amountUsd : Decimal)
  /-- A sweep enrols other users. -/
  | enrollOthers (now : Timestamp)
  | enroll (now : Timestamp)
  | openPeriod (id : Uuid)
  | price (through : Nat) (calculation : Option Calculation)
  | collect (through : Nat) (now : Timestamp)
  | record (through : Nat)
  deriving DecidableEq, Repr

/-- Which passes a mode runs. -/
def Event.runsIn : RedemptionTaxMode → Event → Bool
  | _, .money .. => true
  | .off, _ => false
  | .dryRun, .collect .. | .dryRun, .record .. => false
  | .dryRun, _ | .collect, _ => true

namespace Account

/-- A ledger row the table's constraints admit, with the next id. -/
def money (a : Account) (entryType : EntryType) (amountUsd : Decimal) : Account :=
  if entryType = .usage ∧ 0 ≤ amountUsd then a
  else
    { a with
      user := { a.user with creditBalanceUsd := a.user.creditBalanceUsd + amountUsd }
      ledger := a.ledger ++ [{ id := maxLedgerId a.ledger + 1, entryType, amountUsd }] }

/-- `enroll_users`, for this user and the stamp every enrolment leaves. -/
def enroll (a : Account) (now : Timestamp) : Account :=
  let activation := a.activation.getD now
  match a.user.redemptionTax with
  | some _ => a
  | none =>
      { a with
        user := { a.user with
          redemptionTax := some
            (Enrollment.Statement.enroll { now, activation, user := a.user, ledger := a.ledger }
              a.user) }
        activation := some activation }

/-- `open_period_for`. -/
def openPeriod (a : Account) (id : Uuid) : Account :=
  match a.user.redemptionTax with
  | none => a
  | some enrolled =>
      let cursor := sweptThrough enrolled.fromLedgerId a.periods
      match newUsage a.ledger cursor with
      | none => a
      | some (through, usageUsd) =>
          if usageUsd ≤ 0 then a
          else
            { a with
              user := { a.user with
                redemptionTax := some { enrolled with
                  exemptRemainingUsd := enrolled.exemptRemainingUsd -
                    min enrolled.exemptRemainingUsd usageUsd } }
              periods := a.periods ++
                [newPeriod id cursor through enrolled.exemptRemainingUsd usageUsd] }

/-- One period of `price_periods`. -/
def price (a : Account) (through : Nat) (calculation : Option Calculation) : Account :=
  { a with
    periods := a.periods.map fun period =>
      if period.throughLedgerId = through ∧ period.taxUsd = none then period.price calculation
      else period }

/-- The tax of a priced period that has not been debited. -/
def owedTax (a : Account) (through : Nat) : Option Decimal :=
  (a.periods.find? fun period =>
    period.throughLedgerId = through ∧ period.debitedAt = none).bind fun period => period.taxUsd

/-- `collect_period`. -/
def collect (a : Account) (through : Nat) (now : Timestamp) : Account :=
  match a.owedTax through with
  | none => a
  | some taxUsd =>
      let collected := collectable taxUsd a.user.creditBalanceUsd
      let ledgerId := maxLedgerId a.ledger + 1
      { a with
        user := { a.user with creditBalanceUsd := a.user.creditBalanceUsd - collected }
        ledger := a.ledger ++
          if 0 < collected then [{ id := ledgerId, entryType := .tax, amountUsd := -collected }]
          else []
        periods := a.periods.map fun period =>
          if period.throughLedgerId = through then period.collect now taxUsd collected ledgerId
          else period }

/-- The calculation of a debited period. -/
def unfiled (a : Account) (through : Nat) : Option String :=
  (a.periods.find? fun period =>
    period.throughLedgerId = through ∧ period.debitedAt ≠ none).bind fun period =>
      period.taxCalculationId

/-- One period of `record_periods`.  Stripe refuses a reference it has, so whether the
    answer was stored or lost, the transaction is there once. -/
def record (a : Account) (through : Nat) : Account :=
  match a.unfiled through with
  | none => a
  | some calculation =>
      if a.filed.any fun filing => filing.1 = through then a
      else { a with filed := a.filed ++ [(through, calculation)] }

def step (a : Account) : Event → Account
  | .money entryType amountUsd => a.money entryType amountUsd
  | .enrollOthers now => { a with activation := some (a.activation.getD now) }
  | .enroll now => a.enroll now
  | .openPeriod id => a.openPeriod id
  | .price through calculation => a.price through calculation
  | .collect through now => a.collect through now
  | .record through => a.record through

/-- A schedule, under one mode. -/
def run (mode : RedemptionTaxMode) (schedule : List Event) (a : Account) : Account :=
  (schedule.filter (Event.runsIn mode)).foldl step a

/-- What a customer and a tax authority see: the balance and every row that moved it,
    the tax transactions, and the exemption. -/
def observed (a : Account) : Decimal × List LedgerRow × List (Nat × String) × Option Decimal :=
  (a.user.creditBalanceUsd, a.ledger, a.filed, a.user.redemptionTax.map Enrolled.exemptRemainingUsd)

/-- Before any sweep. -/
structure Opening (a : Account) : Prop where
  unseen : a.user.redemptionTax = none
  noPeriods : a.periods = []
  noActivation : a.activation = none
  noFilings : a.filed = []
  usageEntriesAreDebits : ∀ row ∈ a.ledger, row.entryType = .usage → row.amountUsd < 0

end Account

end Redemption

end ZeroRouter
