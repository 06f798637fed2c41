import ZeroRouter.Billing
import ZeroRouter.Stripe.Webhook

/-!
# Refunds and disputes

`src/router/src/billing.rs`: taking back a credit, and remembering a reversal that
comes before its credit.  `stripe.rs` `handle_reversal_event`: what the handler reads
of an event, and when the event covers the credit.
-/

namespace ZeroRouter

open Relational

/-! ## The credit of an intent -/

/-- A row that credited the intent: a Checkout purchase records the intent, an autopay
    recharge is anchored on it. -/
def CreditLedger.credits (row : CreditLedger) (paymentIntentId : String) : Prop :=
  (row.entryType = .purchase ∨ row.entryType = .autopay) ∧
    (row.stripePaymentIntentId = some paymentIntentId ∨ row.stripeSessionId = some paymentIntentId)

instance (row : CreditLedger) (paymentIntentId : String) : Decidable (row.credits paymentIntentId) :=
  inferInstanceAs (Decidable (_ ∧ _))

/-- A row that took the intent's credit back. -/
def CreditLedger.refunds (row : CreditLedger) (paymentIntentId : String) : Prop :=
  row.entryType = .refund ∧ row.stripePaymentIntentId = some paymentIntentId

instance (row : CreditLedger) (paymentIntentId : String) : Decidable (row.refunds paymentIntentId) :=
  inferInstanceAs (Decidable (_ ∧ _))

/-- The lookup of `reverse_purchase` and `resolve_reversal_against_credit`. -/
def Db.creditedPurchase (db : Db) (paymentIntentId : String) : Option CreditLedger :=
  db.creditLedger.find fun row => row.credits paymentIntentId

/-- Either anchor of a reversal is there: its object, or a refund of the intent. -/
def Db.alreadyReversed (db : Db) (objectId paymentIntentId : String) : Prop :=
  ∃ row ∈ db.creditLedger, row.stripeSessionId = some objectId ∨ row.refunds paymentIntentId

instance (db : Db) (objectId paymentIntentId : String) :
    Decidable (db.alreadyReversed objectId paymentIntentId) :=
  inferInstanceAs (Decidable (∃ _ ∈ _, _))

/-! ## Taking it back -/

inductive ReversalOutcome where
  | reversed (amountUsd balanceAfter : Decimal)
  | alreadyReversed
  | unknownPurchase
  deriving DecidableEq, Repr

/-- The row a reversal inserts. -/
def refundEntry (userId : Uuid) (creditedUsd : Decimal) (objectId paymentIntentId note : String)
    (balanceAfter : Decimal) : CreditLedger where
  userId := userId
  entryType := .refund
  amountUsd := -creditedUsd
  balanceAfterUsd := balanceAfter
  stripeSessionId := some objectId
  stripePaymentIntentId := some paymentIntentId
  requestId := none
  note := some note

/-- `reverse_purchase`. -/
def Db.reversePurchase (db : Db) (paymentIntentId stripeObjectId note : String) :
    Except SqlError (ReversalOutcome × Db) := do
  ensure ((trim stripeObjectId).toList.isEmpty = false)
    (SqlError.protocol "credit reversal requires a Stripe object id")
  match db.creditedPurchase paymentIntentId with
  | none => return (.unknownPurchase, db)
  | some credit =>
      if db.alreadyReversed stripeObjectId paymentIntentId then return (.alreadyReversed, db)
      else
        let reversed ← db.moveBalance credit.userId true
          (.protocol "credit reversal found no such user") (-credit.amountUsd)
          (refundEntry credit.userId credit.amountUsd stripeObjectId paymentIntentId note)
        let balanceAfter ← reversed.balance credit.userId
        return (.reversed credit.amountUsd balanceAfter, reversed)

/-- `freeze_account`. -/
def Db.freezeAccount (db : Db) (now : Timestamp) (userId : Uuid) (reason : FrozenReason) :
    Except SqlError Db := do
  let users ← liftViolation (db.users.updateWhere
    (fun user => user.id = userId ∧ user.frozenAt = none)
    fun user => { user with frozenAt := some now, frozenReason := some reason })
  return { db with users }

/-- `unfreeze_account`. -/
def Db.unfreezeAccount (db : Db) (userId : Uuid) : Except SqlError Db := do
  let users ← liftViolation (db.users.updateWhere
    (fun user => user.id = userId ∧ user.frozenAt ≠ none)
    fun user => { user with frozenAt := none, frozenReason := none })
  return { db with users }

/-! ## Remembering it -/

/-- `GREATEST` of two amounts, either of which may be missing. -/
def greatestCents : Option Int → Option Int → Option Int
  | some a, some b => some (max a b)
  | some a, none => some a
  | none, b => b

/-- What a verified event says was reversed. -/
structure ReversalEvent where
  objectId : String
  paymentIntent : String
  isDispute : Bool
  reversedCents : Option Int
  currency : Option String
  deriving DecidableEq, Repr

/-- The tombstone an event leaves. -/
def ReversalEvent.tombstone (event : ReversalEvent) (now : Timestamp) : StripeObservedReversal where
  objectId := event.objectId
  paymentIntentId := event.paymentIntent
  isDispute := event.isDispute
  reversedCents := event.reversedCents
  currency := event.currency
  observedAt := now
  appliedAt := none

/-- The tombstone an event is merged into: its own object's, unapplied, and of the
    same intent, type and currency. -/
def StripeObservedReversal.absorbs (row : StripeObservedReversal) (event : ReversalEvent) : Prop :=
  row.objectId = event.objectId ∧ row.appliedAt = none ∧
    row.paymentIntentId = event.paymentIntent ∧ row.isDispute = event.isDispute ∧
    row.currency = event.currency

instance (row : StripeObservedReversal) (event : ReversalEvent) : Decidable (row.absorbs event) :=
  inferInstanceAs (Decidable (_ ∧ _))

/-- `insert_observed_reversal`. -/
def Db.insertObservedReversal (db : Db) (now : Timestamp) (event : ReversalEvent) :
    Except SqlError Db := do
  ensure ((trim event.objectId).toList.isEmpty = false)
    (SqlError.protocol "observed reversal requires a Stripe object id")
  ensure ((trim event.paymentIntent).toList.isEmpty = false)
    (SqlError.protocol "observed reversal requires a payment intent id")
  let stripeObservedReversals ← liftViolation <|
    if ∃ row ∈ db.stripeObservedReversals, row.objectId = event.objectId then
      db.stripeObservedReversals.updateWhere (fun row => row.absorbs event)
        fun row => { row with reversedCents := greatestCents event.reversedCents row.reversedCents }
    else db.stripeObservedReversals.insert (event.tombstone now)
  return { db with stripeObservedReversals }

/-- `resolve_reversal_against_credit`: the credit, or none once the tombstone is down. -/
def Db.resolveReversalAgainstCredit (db : Db) (now : Timestamp) (event : ReversalEvent) :
    Except SqlError (Option CreditLedger × Db) := do
  ensure ((trim event.objectId).toList.isEmpty = false)
    (SqlError.protocol "observed reversal requires a Stripe object id")
  ensure ((trim event.paymentIntent).toList.isEmpty = false)
    (SqlError.protocol "observed reversal requires a payment intent id")
  match db.creditedPurchase event.paymentIntent with
  | some credit => return (some credit, db)
  | none =>
      let db ← db.insertObservedReversal now event
      return (none, db)

/-- `mark_intent_reversals_applied`. -/
def Db.markIntentReversalsApplied (db : Db) (now : Timestamp) (paymentIntentId : String) :
    Except SqlError Db := do
  ensure ((trim paymentIntentId).toList.isEmpty = false)
    (SqlError.protocol "stamping observed reversals requires a payment intent id")
  let stripeObservedReversals ← liftViolation (db.stripeObservedReversals.updateWhere
    (fun row => row.paymentIntentId = paymentIntentId ∧ row.appliedAt = none)
    fun row => { row with appliedAt := some now })
  return { db with stripeObservedReversals }

/-! ## What the handler reads of an event -/

/-- The fields of a refund or a dispute; `none` names no intent and is acknowledged. -/
def reversalEvent (event : StripeEvent) : Except WebhookFailure (Option ReversalEvent) := do
  let isDispute := decide (event.eventType = "charge.dispute.created")
  let objectId ← require (event.object.str "id") .malformedEvent
  match event.object.str "payment_intent" with
  | none => return none
  | some paymentIntent =>
      return some
        { objectId
          paymentIntent
          isDispute
          reversedCents :=
            (event.object.get (if isDispute then "amount" else "amount_refunded")).bind Value.asI64
          currency := (event.object.str "currency").map toAsciiLowercase }

/-- `covers_the_credit`; `none` is a panic in the conversion to cents. -/
def ReversalEvent.coversTheCredit (event : ReversalEvent) (creditedUsd : Decimal) : Option Bool :=
  (usdToCents creditedUsd).map fun creditedCents =>
    match event.reversedCents, event.currency, creditedCents with
    | some reversed, some currency, some creditedCents =>
        decide (currency = checkoutCurrency ∧ creditedCents ≤ reversed)
    | _, _, _ => false

/-- The note of a reversal of a credit that was there. -/
def ReversalEvent.note (event : ReversalEvent) : String :=
  if event.isDispute then s!"chargeback reversal ({event.objectId})"
  else s!"refund reversal ({event.objectId})"

end ZeroRouter
