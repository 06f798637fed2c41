import ZeroRouter.Autopay
import ZeroRouter.Reversal
import ZeroRouter.Lib.Run

/-!
# The billing system

Credits, autopay, reversals and whatever else moves a balance or freezes an account,
around one database.  A step is one transaction, in commit order: a transaction holds
the locks of the users and intents it decides on, and the rows it updates, until it
commits.  A transaction that rolls back is no step; that a client did not see it
commit is one, where the client acts on it.

`handle_reversal_event` is a sequence of transactions, and a delivery in flight has
reached one of them.  Any of them may fail; a redelivery is a new delivery.
-/

namespace ZeroRouter.Billing

open Relational

/-- What an id of Stripe's names.  Ids of different objects differ, and an object does
    not change what it belongs to. -/
inductive StripeObject where
  /-- A Checkout session, paid by an intent. -/
  | session (paymentIntent : Option String)
  /-- An intent, of a Checkout session or of an off-session charge. -/
  | paymentIntent (session : Option String)
  /-- A dispute, or a charge that is refunded. -/
  | reversal (paymentIntent : String) (isDispute : Bool) (currency : Option String)
  | other
  deriving DecidableEq, Repr

/-- Stripe's objects; none has an id like a claim's. -/
structure StripeObjects where
  object : String → StripeObject
  notLocal : ∀ idempotencyKey, object (AutopayDb.localId idempotencyKey) = .other

/-- The transaction the handler of a reversal event is at. -/
inductive Stage where
  | received
  | freezing (credit : CreditLedger)
  | reversing (credit : CreditLedger)
  | stamping
  deriving DecidableEq, Repr

structure Delivery where
  event : ReversalEvent
  stage : Stage
  deriving DecidableEq, Repr

/-- What moved a count of consecutive failures. -/
inductive Mark where
  | strike (paymentIntentId : String) (userId : Uuid)
  | reset (userId : Uuid)
  deriving DecidableEq, Repr

/-- The database, the deliveries in flight, the attaches that have yet to
    drop their claim, and the history: what was delivered and acknowledged, which users
    were unfrozen, which keys were drawn, and what moved the failure counts. -/
structure World where
  db : AutopayDb
  deliveries : List Delivery
  attaching : List String
  delivered : List ReversalEvent
  acknowledged : List ReversalEvent
  unfrozen : List Uuid
  claimed : List String
  marks : List Mark

/-- A delivery is named by its place among those in flight. -/
inductive Action where
  | creditPurchase (now : Timestamp) (userId : Uuid) (amountUsd : Decimal)
      (stripeSessionId : String) (stripePaymentIntentId : Option String)
  /-- Another writer moves a balance by the row's amount and inserts the row. -/
  | post (row : CreditLedger) (creditReversal : Bool)
  | freezeAccount (now : Timestamp) (userId : Uuid)
  | unfreezeAccount (userId : Uuid)
  | deliver (event : StripeEvent)
  | resolve (n : Nat) (now : Timestamp) (fate : Fate)
  | freeze (n : Nat) (now : Timestamp) (fate : Fate)
  | reverse (n : Nat) (fate : Fate)
  | stamp (n : Nat) (now : Timestamp) (fate : Fate)
  /-- The handler dies. -/
  | crash (n : Nat)
  | armAutopay (userId : Uuid) (thresholdUsd topupUsd : Decimal) (hasCard : Bool)
  | disarmAutopay (userId : Uuid)
  | claimAutopayAttempt (now : Timestamp) (userId : Uuid) (amountUsd chargeAmountUsd : Decimal)
      (idempotencyKey : String)
  | renameClaim (now : Timestamp) (idempotencyKey paymentIntentId : String)
  | dropClaim (idempotencyKey : String)
  | freezeAutopayTax (now : Timestamp) (paymentIntentId : String) (taxUsd : Decimal)
      (calculationId : Option String)
  | settleAutopayIntent (now : Timestamp) (paymentIntentId : String)
      (recovered : Option (Uuid × Decimal × Decimal))
  | failAutopayIntent (now : Timestamp) (paymentIntentId : String)
  | recordAutopayCharge (now : Timestamp) (paymentIntentId : String) (userId : Uuid)
      (amountUsd chargeAmountUsd : Decimal)

namespace World

/-- The state after a statement on the tables every part shares: unchanged when the
    database refused it. -/
def run (w : World) : Except SqlError Db → World
  | .ok db => { w with db := { w.db with toDb := db } }
  | .error _ => w

/-- The same for a statement on all of them. -/
def runAutopay (w : World) : Except SqlError AutopayDb → World
  | .ok db => { w with db }
  | .error _ => w

def mark (w : World) (mark : Mark) : World := { w with marks := mark :: w.marks }

/-! ## The reversal handler -/

/-- The delivery moves on. -/
def advance (w : World) (n : Nat) (event : ReversalEvent) (stage : Stage) : World :=
  { w with deliveries := w.deliveries.set n { event, stage } }

/-- The delivery failed; Stripe will deliver the event again. -/
def fail (w : World) (n : Nat) : World := { w with deliveries := w.deliveries.eraseIdx n }

/-- The event is answered with success. -/
def acknowledge (w : World) (n : Nat) (event : ReversalEvent) : World :=
  { w.fail n with acknowledged := event :: w.acknowledged }

/-- A transaction of the handler: `next` goes on from what it answered. -/
def transact {α : Type} (w : World) (n : Nat) (fate : Fate) (next : World → α → World) :
    Except SqlError (α × Db) → World
  | .error _ => w.fail n
  | .ok (answer, db) =>
      match fate with
      | .commit => next (w.run (.ok db)) answer
      | .commitUnseen => (w.run (.ok db)).fail n
      | .rollback => w.fail n

/-- Does the event cover the credit? -/
def assess (w : World) (n : Nat) (event : ReversalEvent) (credit : CreditLedger) : World :=
  match event.coversTheCredit credit.amountUsd with
  | none => w.fail n
  | some false => w.acknowledge n event
  | some true => w.advance n event (.reversing credit)

def runResolve (w : World) (n : Nat) (event : ReversalEvent) (now : Timestamp) (fate : Fate) :
    World :=
  w.transact n fate
    (fun w found =>
      match found with
      | none => w.acknowledge n event
      | some credit =>
          if event.isDispute then w.advance n event (.freezing credit) else w.assess n event credit)
    (w.db.resolveReversalAgainstCredit now event)

def runFreeze (w : World) (n : Nat) (event : ReversalEvent) (credit : CreditLedger)
    (now : Timestamp) (fate : Fate) : World :=
  w.transact n fate (fun w _ => w.assess n event credit)
    ((w.db.freezeAccount now credit.userId .dispute).map fun db => ((), db))

def runReverse (w : World) (n : Nat) (event : ReversalEvent) (fate : Fate) : World :=
  w.transact n fate
    (fun w outcome =>
      match outcome with
      | .unknownPurchase => w.acknowledge n event
      | .reversed .. | .alreadyReversed => w.advance n event .stamping)
    (w.db.reversePurchase event.paymentIntent event.objectId event.note)

def runStamp (w : World) (n : Nat) (event : ReversalEvent) (now : Timestamp) (fate : Fate) :
    World :=
  w.transact n fate (fun w _ => w.acknowledge n event)
    ((w.db.markIntentReversalsApplied now event.paymentIntent).map fun db => ((), db))

/-! ## The other transactions -/

def runFail (w : World) (now : Timestamp) (paymentIntentId : String) : World :=
  match w.db.failAutopayIntent now paymentIntentId with
  | .ok (true, db) =>
      match w.db.intent? paymentIntentId with
      | some intent => { w with db }.mark (.strike paymentIntentId intent.userId)
      | none => { w with db }
  | _ => w

def runSettle (w : World) (now : Timestamp) (paymentIntentId : String)
    (recovered : Option (Uuid × Decimal × Decimal)) : World :=
  match w.db.settleAutopayIntent now paymentIntentId recovered with
  | .ok (.ok .credited, db) =>
      match db.intent? paymentIntentId with
      | some intent => { w with db }.mark (.reset intent.userId)
      | none => { w with db }
  | .ok (_, db) => { w with db }
  | .error _ => w

def runArm (w : World) (bounds : CheckoutBounds) (userId : Uuid) (thresholdUsd topupUsd : Decimal)
    (hasCard : Bool) : World :=
  match w.db.armAutopay bounds userId thresholdUsd topupUsd hasCard with
  | .ok (true, db) => { w with db }.mark (.reset userId)
  | _ => w

def runClaim (w : World) (now : Timestamp) (userId : Uuid) (amountUsd chargeAmountUsd : Decimal)
    (idempotencyKey : String) : World :=
  { w.runAutopay ((w.db.claimAutopayAttempt now userId amountUsd chargeAmountUsd
      idempotencyKey).map Prod.snd) with
    claimed := idempotencyKey :: w.claimed }

def runRename (w : World) (now : Timestamp) (idempotencyKey paymentIntentId : String) : World :=
  match w.db.renameClaim now idempotencyKey paymentIntentId with
  | .ok (0, db) => { w with db, attaching := idempotencyKey :: w.attaching }
  | .ok (_, db) => { w with db }
  | .error _ => w

def runDrop (w : World) (idempotencyKey : String) : World :=
  { w with db := w.db.dropClaim idempotencyKey, attaching := w.attaching.erase idempotencyKey }

end World

/-! ## Steps -/

variable (stripe : StripeObjects) (bounds : CheckoutBounds)

/-- A row that neither credits nor refunds an object of Stripe's. -/
def isOther (row : CreditLedger) : Prop :=
  row.entryType ≠ .purchase ∧ row.entryType ≠ .autopay ∧ row.entryType ≠ .refund ∧
    row.stripeSessionId = none ∧ row.stripePaymentIntentId = none

instance (row : CreditLedger) : Decidable (isOther row) := inferInstanceAs (Decidable (_ ∧ _))

/-- What an action names is what Stripe has under that id.  Amounts come from a
    checkout's quote, a validated top-up or their authenticated copy, in whole cents. -/
def Action.genuine : Action → Prop
  | .creditPurchase _ _ amountUsd stripeSessionId stripePaymentIntentId =>
      WholeCents amountUsd ∧ stripe.object stripeSessionId = .session stripePaymentIntentId ∧
        ∀ paymentIntentId ∈ stripePaymentIntentId,
          stripe.object paymentIntentId = .paymentIntent (some stripeSessionId)
  | .post row _ => isOther row
  | .renameClaim _ _ paymentIntentId => stripe.object paymentIntentId = .paymentIntent none
  | .settleAutopayIntent _ paymentIntentId recovered =>
      stripe.object paymentIntentId = .paymentIntent none ∧
        ∀ collected ∈ recovered, WholeCents collected.2.1
  | .recordAutopayCharge _ paymentIntentId _ amountUsd _ =>
      stripe.object paymentIntentId = .paymentIntent none ∧ WholeCents amountUsd
  | _ => True

instance (action : Action) : Decidable (action.genuine stripe) := by
  unfold Action.genuine
  cases action <;> infer_instance

/-- What the handler makes of an event when it arrives. -/
def World.receive (w : World) (event : StripeEvent) : Option World :=
  match reversalEvent event with
  | .error _ => some w
  | .ok none => some w
  | .ok (some reversal) =>
      if stripe.object reversal.objectId =
          .reversal reversal.paymentIntent reversal.isDispute reversal.currency then
        some
          { w with
            deliveries := { event := reversal, stage := .received } :: w.deliveries
            delivered := reversal :: w.delivered }
      else none

/-- One step; `none` when the action is not enabled. -/
def step (w : World) (action : Action) : Option World :=
  if action.genuine stripe then
    match action with
    | .creditPurchase now userId amountUsd stripeSessionId stripePaymentIntentId =>
        some (w.run ((w.db.creditPurchase now userId amountUsd stripeSessionId
          stripePaymentIntentId).map Prod.snd))
    | .post row creditReversal =>
        some (w.run (w.db.moveBalance row.userId creditReversal .rowNotFound row.amountUsd
          fun balanceAfter => { row with balanceAfterUsd := balanceAfter }))
    | .freezeAccount now userId => some (w.run (w.db.freezeAccount now userId .operator))
    | .unfreezeAccount userId =>
        some { w.run (w.db.unfreezeAccount userId) with unfrozen := userId :: w.unfrozen }
    | .deliver event => if event.arm = .reversal then w.receive stripe event else none
    | .resolve n now fate =>
        match w.deliveries[n]? with
        | some { event, stage := .received } => some (w.runResolve n event now fate)
        | _ => none
    | .freeze n now fate =>
        match w.deliveries[n]? with
        | some { event, stage := .freezing credit } => some (w.runFreeze n event credit now fate)
        | _ => none
    | .reverse n fate =>
        match w.deliveries[n]? with
        | some { event, stage := .reversing _ } => some (w.runReverse n event fate)
        | _ => none
    | .stamp n now fate =>
        match w.deliveries[n]? with
        | some { event, stage := .stamping } => some (w.runStamp n event now fate)
        | _ => none
    | .crash n => some (w.fail n)
    | .armAutopay userId thresholdUsd topupUsd hasCard =>
        some (w.runArm bounds userId thresholdUsd topupUsd hasCard)
    | .disarmAutopay userId => some (w.runAutopay (w.db.disarmAutopay userId))
    | .claimAutopayAttempt now userId amountUsd chargeAmountUsd idempotencyKey =>
        if idempotencyKey ∈ w.claimed then none
        else some (w.runClaim now userId amountUsd chargeAmountUsd idempotencyKey)
    | .renameClaim now idempotencyKey paymentIntentId =>
        some (w.runRename now idempotencyKey paymentIntentId)
    | .dropClaim idempotencyKey =>
        if idempotencyKey ∈ w.attaching then some (w.runDrop idempotencyKey) else none
    | .freezeAutopayTax now paymentIntentId taxUsd calculationId =>
        some (w.runAutopay ((w.db.freezeAutopayTax now paymentIntentId taxUsd calculationId).map
          Prod.snd))
    | .settleAutopayIntent now paymentIntentId recovered =>
        some (w.runSettle now paymentIntentId recovered)
    | .failAutopayIntent now paymentIntentId => some (w.runFail now paymentIntentId)
    | .recordAutopayCharge now paymentIntentId userId amountUsd chargeAmountUsd =>
        some (w.runAutopay (w.db.recordAutopayCharge now paymentIntentId userId amountUsd
          chargeAmountUsd))
  else none

abbrev Reaches (C : World → Action → Prop) : World → World → Prop :=
  Transition.Steps (step stripe bounds) C

end ZeroRouter.Billing
