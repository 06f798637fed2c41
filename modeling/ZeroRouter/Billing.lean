import ZeroRouter.Db.Ledger
import Mathlib.Data.List.Sort

/-!
# Purchases

`src/router/src/billing.rs`: the record of what a checkout session was priced at,
and the transaction that credits it.  An error means the transaction rolled back.
-/

namespace ZeroRouter

open Relational

/-! ## The purchase record -/

/-- `record_checkout_intent`: a session id that is taken is refused. -/
def Db.recordCheckoutIntent (db : Db) (now : Timestamp) (stripeSessionId : String) (userId : Uuid)
    (expectedAmountCents : Int) (expectedCreditUsd : Decimal) (currency : String) :
    Except SqlError Db := do
  let stripeCheckoutIntents ← liftViolation (db.stripeCheckoutIntents.insert
    { stripeSessionId
      userId
      createdAt := now
      expectedAmountCents
      expectedCreditUsd
      currency
      settledAt := none })
  ensure (∃ user ∈ db.users, user.id = userId) SqlError.foreignKeyViolation
  return { db with stripeCheckoutIntents }

/-- `checkout_intent`. -/
def Db.checkoutIntent (db : Db) (stripeSessionId : String) : Option StripeCheckoutIntent :=
  db.stripeCheckoutIntents.find fun row => row.stripeSessionId = stripeSessionId

/-- `settle_checkout_intent`: the marker is stamped once. -/
def Db.settleCheckoutIntent (db : Db) (now : Timestamp) (stripeSessionId : String) :
    Except SqlError (Bool × Db) := do
  let stripeCheckoutIntents ← liftViolation (db.stripeCheckoutIntents.updateWhere
    (fun row => row.stripeSessionId = stripeSessionId ∧ row.settledAt = none)
    fun row => { row with settledAt := some now })
  let settled := countWhere
    (fun row => row.stripeSessionId = stripeSessionId ∧ row.settledAt = none)
    db.stripeCheckoutIntents.rows
  return (0 < settled, { db with stripeCheckoutIntents })

/-! ## Reversals seen before the credit -/

/-- Whether a tombstone takes back the whole credit: it is in dollars, and no
    smaller than the credit rounded to cents. -/
def StripeObservedReversal.covers (tombstone : StripeObservedReversal) (creditedUsd : Decimal) :
    Prop :=
  tombstone.currency = some "usd" ∧
    ∃ cents ∈ tombstone.reversedCents, ⌊creditedUsd * 100 + 1 / 2⌋ ≤ cents

instance (tombstone : StripeObservedReversal) (creditedUsd : Decimal) :
    Decidable (tombstone.covers creditedUsd) :=
  inferInstanceAs (Decidable (_ ∧ ∃ cents ∈ tombstone.reversedCents, _))

/-- `UPDATE users SET frozen_at = NOW(), frozen_reason = 'dispute'`, unless frozen. -/
def Db.freezeForDispute (db : Db) (now : Timestamp) (userId : Uuid) : Except SqlError Db := do
  let users ← liftViolation (db.users.updateWhere
    (fun user => user.id = userId ∧ user.frozenAt = none)
    fun user => { user with frozenAt := some now, frozenReason := some .dispute })
  return { db with users }

/-- The note of a reversal that came first. -/
def reversalNote (tombstone : StripeObservedReversal) : String :=
  if tombstone.isDispute then
    s!"chargeback reversal ({tombstone.objectId}); reversal observed before credit"
  else s!"refund reversal ({tombstone.objectId}); reversal observed before credit"

/-- The credit taken back, unless the object or the intent was reversed already. -/
def Db.reverseCredit (db : Db) (userId : Uuid) (paymentIntentId : String) (creditedUsd : Decimal)
    (tombstone : StripeObservedReversal) : Except SqlError Db :=
  if ∃ row ∈ db.creditLedger, row.stripeSessionId = some tombstone.objectId ∨
      (row.entryType = .refund ∧ row.stripePaymentIntentId = some paymentIntentId) then
    .ok db
  else
    db.moveBalance userId true .rowNotFound (-creditedUsd) fun balanceAfter =>
      { userId
        entryType := .refund
        amountUsd := -creditedUsd
        balanceAfterUsd := balanceAfter
        stripeSessionId := some tombstone.objectId
        stripePaymentIntentId := some paymentIntentId
        requestId := none
        note := some (reversalNote tombstone) }

/-- One tombstone of `apply_observed_reversals`.  A dispute freezes whether or not
    it covers; a refund that does not cover stays unapplied. -/
def Db.applyObservedReversal (db : Db) (now : Timestamp) (userId : Uuid) (paymentIntentId : String)
    (creditedUsd : Decimal) (tombstone : StripeObservedReversal) : Except SqlError Db := do
  let frozen ← (if tombstone.isDispute then db.freezeForDispute now userId else .ok db)
  let reversed ←
    (if tombstone.covers creditedUsd then
      frozen.reverseCredit userId paymentIntentId creditedUsd tombstone
    else .ok frozen)
  if tombstone.isDispute ∨ tombstone.covers creditedUsd then
    let stripeObservedReversals ← liftViolation (reversed.stripeObservedReversals.updateWhere
      (fun row => row.objectId = tombstone.objectId) fun row => { row with appliedAt := some now })
    return { reversed with stripeObservedReversals }
  else return reversed

/-- The unapplied tombstones of an intent, oldest first. -/
def Db.unappliedReversals (db : Db) (paymentIntentId : String) : List StripeObservedReversal :=
  let unapplied := db.stripeObservedReversals.rows.filter fun row =>
    row.paymentIntentId = paymentIntentId ∧ row.appliedAt = none
  unapplied.insertionSort fun a b =>
    a.observedAt < b.observedAt ∨ (a.observedAt = b.observedAt ∧ a.objectId ≤ b.objectId)

/-- `apply_observed_reversals`. -/
def Db.applyObservedReversals (db : Db) (now : Timestamp) (userId : Uuid) (paymentIntentId : String)
    (creditedUsd : Decimal) : Except SqlError Db :=
  (db.unappliedReversals paymentIntentId).foldlM
    (fun db tombstone => db.applyObservedReversal now userId paymentIntentId creditedUsd tombstone) db

/-! ## The credit -/

inductive CreditOutcome where
  | applied (balanceAfter : Decimal)
  | alreadyApplied
  deriving DecidableEq, Repr

/-- `billing.rs` `balance`. -/
def Db.balance (db : Db) (userId : Uuid) : Except SqlError Decimal :=
  match db.users.find fun user => user.id = userId with
  | some user => .ok user.creditBalanceUsd
  | none => .error .rowNotFound

/-- The row `credit_purchase` inserts. -/
def purchaseEntry (userId : Uuid) (amountUsd : Decimal) (stripeSessionId : String)
    (stripePaymentIntentId : Option String) (balanceAfter : Decimal) : CreditLedger where
  userId := userId
  entryType := .purchase
  amountUsd := amountUsd
  balanceAfterUsd := balanceAfter
  stripeSessionId := some stripeSessionId
  stripePaymentIntentId := stripePaymentIntentId
  requestId := none
  note := none

/-- `credit_purchase`. -/
def Db.creditPurchase (db : Db) (now : Timestamp) (userId : Uuid) (amountUsd : Decimal)
    (stripeSessionId : String) (stripePaymentIntentId : Option String) :
    Except SqlError (CreditOutcome × Db) := do
  ensure (0 < amountUsd) (SqlError.protocol "credit purchase amount must be positive")
  ensure ((trim stripeSessionId).toList.isEmpty = false)
    (SqlError.protocol "credit purchase requires a Stripe session id")
  if ∃ row ∈ db.creditLedger, row.stripeSessionId = some stripeSessionId then
    return (.alreadyApplied, db)
  else
    let credited ← db.moveBalance userId false (.protocol "credit purchase found no such user")
      amountUsd (purchaseEntry userId amountUsd stripeSessionId stripePaymentIntentId)
    let balanceAfter ← credited.balance userId
    match stripePaymentIntentId with
    | none => return (.applied balanceAfter, credited)
    | some paymentIntentId =>
        let reversed ← credited.applyObservedReversals now userId paymentIntentId amountUsd
        return (.applied balanceAfter, reversed)

end ZeroRouter
