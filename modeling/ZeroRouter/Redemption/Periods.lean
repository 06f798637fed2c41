import ZeroRouter.Redemption.Enrollment
import ZeroRouter.Db.Ledger

/-!
# Redemption-tax periods

`src/router/src/redemption_tax.rs`: a sweep opens one period over an enrolled
user's new `usage` rows, prices it with one tax calculation, and debits the tax
from the balance.  Any number of sweeps run at once, on any replicas, beside the
user's settlements and credits.

Whoever moves the user's money, and whoever opens or collects a period, holds the
user's advisory lock from its first read to the end of its transaction; pricing
takes no lock.  A transaction's writes become visible together, when it commits.
-/

namespace ZeroRouter

open Relational

namespace Redemption

/-! ## Periods -/

/-- What a period covers, fixed when it is opened. -/
structure Span where
  fromLedgerId : Nat
  throughLedgerId : Nat
  usageUsd : Decimal
  exemptUsd : Decimal
  taxableUsd : Decimal
  deriving DecidableEq, Repr

/-- A row of `redemption_tax_periods`, up to its collection. -/
structure Period extends Span where
  id : Uuid
  fallbackReason : Option String
  taxUsd : Option Decimal
  taxCalculationId : Option String
  collectedUsd : Option Decimal
  shortfallUsd : Option Decimal
  collectionLedgerId : Option Nat
  debitedAt : Option Timestamp
  deriving DecidableEq, Repr

@[mk_iff]
structure PeriodCheck (period : Period) : Prop where
  spanIsForward : period.fromLedgerId < period.throughLedgerId
  usageIsPositive : 0 < period.usageUsd
  splitAddsUp : 0 ≤ period.exemptUsd ∧ 0 ≤ period.taxableUsd ∧
    period.exemptUsd + period.taxableUsd = period.usageUsd
  collectionIsClamped : ∀ collected ∈ period.collectedUsd, 0 ≤ collected ∧
    ∀ shortfall ∈ period.shortfallUsd, 0 ≤ shortfall ∧
      ∀ tax ∈ period.taxUsd, collected + shortfall = tax

instance (period : Period) : Decidable (PeriodCheck period) :=
  decidable_of_iff _ (periodCheck_iff period).symm

/-- The user's rows of `redemption_tax_periods` (0025), one for each span's end. -/
def periodsTable : Schema Period where
  check := PeriodCheck
  clash a b := a.id = b.id ∨ a.throughLedgerId = b.throughLedgerId
  clash_symm _ _ h := h.imp Eq.symm Eq.symm
  decCheck := inferInstance
  decClash := fun _ _ => inferInstanceAs (Decidable (_ ∨ _))

/-! ## Opening -/

/-- `GREATEST(redemption_tax_from_ledger_id, COALESCE(MAX(through_ledger_id), 0))`. -/
def sweptThrough (fromLedgerId : Nat) (periods : List Period) : Nat :=
  max fromLedgerId ((periods.map fun period => period.throughLedgerId).max?.getD 0)

/-- The `usage` rows past a cursor. -/
def usageAfter (ledger : List LedgerRow) (cursor : Nat) : List LedgerRow :=
  ledger.filter fun row => row.entryType = .usage ∧ cursor < row.id

/-- `SELECT MAX(id), -SUM(amount_usd) …`; both are `NULL` over no rows. -/
def newUsage (ledger : List LedgerRow) (cursor : Nat) : Option (Nat × Decimal) :=
  match usageAfter ledger cursor with
  | [] => none
  | rows => some (maxLedgerId rows, -(rows.map LedgerRow.amountUsd).sum)

/-- The row `open_period_for` inserts. -/
def newPeriod (id : Uuid) (cursor through : Nat) (exemptRemainingUsd usageUsd : Decimal) :
    Period where
  id := id
  fromLedgerId := cursor
  throughLedgerId := through
  usageUsd := usageUsd
  exemptUsd := min exemptRemainingUsd usageUsd
  taxableUsd := usageUsd - min exemptRemainingUsd usageUsd
  fallbackReason := none
  taxUsd := none
  taxCalculationId := none
  collectedUsd := none
  shortfallUsd := none
  collectionLedgerId := none
  debitedAt := none

/-! ## Pricing -/

/-- The taxable amount in whole cents, rounded towards zero; it is not negative. -/
def taxableCents (taxableUsd : Decimal) : Int :=
  let cents := ⌊taxableUsd * 100⌋
  if cents ≤ i64Max then cents else 0

/-- What `calculate_period_tax` answers: the tax in cents and the calculation. -/
structure Calculation where
  taxCents : Nat
  id : String
  deriving DecidableEq, Repr

/-- What a pass of `price_periods` freezes on an unpriced period; a calculation
    that failed, or an address that is missing, freezes nothing. -/
def Period.price (period : Period) (calculation : Option Calculation) : Period :=
  if taxableCents period.taxableUsd ≤ 0 then
    { period with taxUsd := some 0, fallbackReason := some "amount_below_one_cent" }
  else
    match calculation with
    | none => period
    | some answer =>
        { period with
          taxUsd := some (answer.taxCents / 100)
          taxCalculationId := some answer.id }

/-- `WHERE id = $1 AND tax_usd IS NULL`. -/
def Period.isUnpriced (period : Period) (id : Uuid) : Prop :=
  period.id = id ∧ period.taxUsd = none

instance (period : Period) (id : Uuid) : Decidable (period.isUnpriced id) :=
  inferInstanceAs (Decidable (_ ∧ _))

/-! ## Collecting -/

/-- What `collect_period` takes of a tax. -/
def collectable (taxUsd creditBalanceUsd : Decimal) : Decimal :=
  if 0 < taxUsd then min taxUsd (max creditBalanceUsd 0) else 0

/-- What it writes on the period, whose ledger row, when there is one, has the id
    given. -/
def Period.collect (period : Period) (now : Timestamp) (taxUsd collected : Decimal)
    (ledgerId : Nat) : Period :=
  { period with
    collectedUsd := some collected
    shortfallUsd := some (taxUsd - collected)
    collectionLedgerId := if 0 < collected then some ledgerId else period.collectionLedgerId
    debitedAt := some now }

/-! ## The system -/

namespace Periods

/-- The transaction that holds the user's advisory lock, with what it has read and
    what it has written. -/
inductive Transaction where
  | money (entryType : EntryType) (amountUsd : Decimal) (row : Option LedgerRow)
  | opening
  | openingFrom (cursor : Nat) (exemptRemainingUsd : Decimal)
  | openingThrough (cursor through : Nat) (exemptRemainingUsd usageUsd : Decimal)
  | collecting (periodId : Uuid)
  | collectingTax (periodId : Uuid) (taxUsd : Decimal)
  deriving DecidableEq, Repr

/-- One enrolled user, as committed, and the holder of the user's lock. -/
structure State where
  creditBalanceUsd : Decimal
  fromLedgerId : Nat
  exemptRemainingUsd : Decimal
  ledger : List LedgerRow
  nextLedgerId : Nat
  periods : Table periodsTable
  lock : Option Transaction

inductive Action where
  /-- A settlement, a purchase, a refund: anything that writes a ledger row of its
      own, which no `tax` row is. -/
  | lockMoney (entryType : EntryType) (amountUsd : Decimal)
  | insertLedger
  | commitMoney
  /-- Another user's row takes a ledger id. -/
  | burnLedgerId
  | lockOpen
  | readCursor
  | readUsage
  | commitOpen (id : Uuid)
  | price (id : Uuid) (calculation : Option Calculation)
  | lockCollect (id : Uuid)
  | readTax
  | commitCollect (now : Timestamp)
  /-- Whoever holds the lock fails. -/
  | rollback
  deriving DecidableEq, Repr

namespace State

/-- `UPDATE users SET … exempt_remaining - $2`, `INSERT INTO redemption_tax_periods`
    and `COMMIT`; a refused insert rolls the update back with it. -/
def openPeriod (s : State) (id : Uuid) (cursor through : Nat)
    (exemptRemainingUsd usageUsd : Decimal) : State :=
  match s.periods.insert (newPeriod id cursor through exemptRemainingUsd usageUsd) with
  | .ok periods =>
      { s with
        exemptRemainingUsd := s.exemptRemainingUsd - min exemptRemainingUsd usageUsd
        periods
        lock := none }
  | .error _ => { s with lock := none }

/-- The debit, its ledger row, the stamps and `COMMIT`. -/
def collectPeriod (s : State) (now : Timestamp) (periodId : Uuid) (taxUsd : Decimal) : State :=
  let collected := collectable taxUsd s.creditBalanceUsd
  match s.periods.updateWhere (fun period => period.id = periodId)
    fun period => period.collect now taxUsd collected s.nextLedgerId with
  | .ok periods =>
      if 0 < collected then
        { s with
          creditBalanceUsd := s.creditBalanceUsd - collected
          ledger := s.ledger ++ [{ id := s.nextLedgerId, entryType := .tax,
                                   amountUsd := -collected }]
          nextLedgerId := s.nextLedgerId + 1
          periods
          lock := none }
      else { s with periods, lock := none }
  | .error _ => { s with lock := none }

end State

/-- One step; `none` when the action is not enabled. -/
def step (s : State) : Action → Option State
  | .lockMoney entryType amountUsd =>
      if s.lock = none ∧ entryType ≠ .tax ∧ (entryType = .usage → amountUsd < 0) then
        some { s with lock := some (.money entryType amountUsd none) }
      else none
  | .insertLedger =>
      match s.lock with
      | some (.money entryType amountUsd none) =>
          some { s with
            lock := some (.money entryType amountUsd
              (some { id := s.nextLedgerId, entryType, amountUsd }))
            nextLedgerId := s.nextLedgerId + 1 }
      | _ => none
  | .commitMoney =>
      match s.lock with
      | some (.money _ amountUsd (some row)) =>
          some { s with
            creditBalanceUsd := s.creditBalanceUsd + amountUsd
            ledger := s.ledger ++ [row]
            lock := none }
      | _ => none
  | .burnLedgerId => some { s with nextLedgerId := s.nextLedgerId + 1 }
  | .lockOpen => if s.lock = none then some { s with lock := some .opening } else none
  | .readCursor =>
      if s.lock = some .opening then
        some { s with
          lock := some (.openingFrom (sweptThrough s.fromLedgerId s.periods.rows)
            s.exemptRemainingUsd) }
      else none
  | .readUsage =>
      match s.lock with
      | some (.openingFrom cursor exemptRemainingUsd) =>
          some { s with
            lock :=
              match newUsage s.ledger cursor with
              -- Nothing new, or nothing spent: the transaction rolls back.
              | none => none
              | some (through, usageUsd) =>
                  if usageUsd ≤ 0 then none
                  else some (.openingThrough cursor through exemptRemainingUsd usageUsd) }
      | _ => none
  | .commitOpen id =>
      match s.lock with
      | some (.openingThrough cursor through exemptRemainingUsd usageUsd) =>
          some (s.openPeriod id cursor through exemptRemainingUsd usageUsd)
      | _ => none
  | .price id calculation =>
      match s.periods.updateWhere (fun period => period.isUnpriced id)
        fun period => period.price calculation with
      | .ok periods => some { s with periods }
      | .error _ => some s
  | .lockCollect id => if s.lock = none then some { s with lock := some (.collecting id) } else none
  | .readTax =>
      match s.lock with
      | some (.collecting id) =>
          some { s with
            lock :=
              -- Collected already, or unpriced: the transaction rolls back.
              ((s.periods.find fun period => period.id = id ∧ period.debitedAt = none).bind
                fun period => period.taxUsd).map fun taxUsd => .collectingTax id taxUsd }
      | _ => none
  | .commitCollect now =>
      match s.lock with
      | some (.collectingTax id taxUsd) => some (s.collectPeriod now id taxUsd)
      | _ => none
  | .rollback => if s.lock = none then none else some { s with lock := none }

/-- A user as enrolment leaves it: a cursor the sequence is past, an exemption, any
    ledger that no redemption tax has touched, and no period. -/
structure State.Opening (s : State) : Prop where
  issued : ∀ row ∈ s.ledger, row.id < s.nextLedgerId
  cursorIssued : s.fromLedgerId < s.nextLedgerId
  usageEntriesAreDebits : ∀ row ∈ s.ledger, row.entryType = .usage → row.amountUsd < 0
  exempt : 0 ≤ s.exemptRemainingUsd
  noTax : ∀ row ∈ s.ledger, row.entryType ≠ .tax
  noPeriods : s.periods = .empty
  unlocked : s.lock = none

end Periods

end Redemption

end ZeroRouter
