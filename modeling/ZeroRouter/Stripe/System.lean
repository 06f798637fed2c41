import ZeroRouter.Stripe.Webhook
import ZeroRouter.Billing
import ZeroRouter.Lib.Run

/-!
# The purchase system

Checkouts that record what they sold, and deliveries of checkout events in
flight against the same database.  Stripe is an adversary with a valid signature:
it delivers any event, to any session, as often and as concurrently as it likes.

A delivery reads the purchase record, credits, and stamps the record settled in
three separate steps, each of which may fail, and other deliveries run in
between.  The credit is one step: its transaction holds the user's lock from its
first read to its commit.  A failed or lost step ends the delivery; a redelivery
is a new one.
-/

namespace ZeroRouter.Checkout

open Relational

/-- How far the handler of a delivery has got. -/
inductive Stage where
  | received
  | corroborated (purchase : Purchase)
  | credited (sessionId : String)
  deriving DecidableEq, Repr

structure Delivery where
  event : StripeEvent
  stage : Stage

/-- The database, the server clock, the deliveries in flight, and the history of
    delivered events and of what they were answered. -/
structure World where
  db : Db
  clock : Timestamp
  deliveries : List Delivery
  delivered : List StripeEvent
  answers : List (StripeEvent × Except WebhookFailure Unit)

/-- A delivery is named by its place among those in flight. -/
inductive Action where
  | tick (clock : Timestamp)
  | recordCheckoutIntent (now : Timestamp) (stripeSessionId : String) (userId : Uuid)
      (expectedAmountCents : Int) (expectedCreditUsd : Decimal) (currency : String)
  | deliver (event : StripeEvent)
  /-- Both layers, against the purchase record as it reads now. -/
  | checkoutIntent (n : Nat)
  | creditPurchase (n : Nat) (now : Timestamp) (fate : Fate)
  | settleCheckoutIntent (n : Nat) (now : Timestamp) (fate : Fate)
  /-- The purchase record cannot be read. -/
  | unreadable (n : Nat)
  /-- The handler dies. -/
  | crash (n : Nat)

def Action.now? : Action → Option Timestamp
  | .recordCheckoutIntent now .. | .creditPurchase _ now _ | .settleCheckoutIntent _ now _ => some now
  | _ => none

namespace World

/-- The state after a statement: unchanged when the database refused it. -/
def run (w : World) : Except SqlError Db → World
  | .ok db => { w with db }
  | .error _ => w

/-- The delivery moves on. -/
def advance (w : World) (n : Nat) (event : StripeEvent) (stage : Stage) : World :=
  { w with deliveries := w.deliveries.set n { event, stage } }

/-- The delivery is over. -/
def answer (w : World) (n : Nat) (event : StripeEvent) (response : Except WebhookFailure Unit) :
    World :=
  { w with
    deliveries := w.deliveries.eraseIdx n
    answers := (event, response) :: w.answers }

/-- The event a step works on. -/
def event? (w : World) : Action → Option StripeEvent
  | .deliver event => some event
  | .checkoutIntent n | .creditPurchase n _ _ | .settleCheckoutIntent n _ _ | .unreadable n
  | .crash n => w.deliveries[n]?.map Delivery.event
  | _ => none

end World

variable (parser : MetadataParser)

/-- The two corroboration layers of a delivery that was just received. -/
def World.runCheckoutIntent (w : World) (n : Nat) (event : StripeEvent) : World :=
  match corroborate parser w.db.checkoutIntent event.object with
  | .error failure => w.answer n event (.error failure)
  | .ok none => w.answer n event (.ok ())
  | .ok (some purchase) => w.advance n event (.corroborated purchase)

/-- The credit of a delivery that passed both layers. -/
def World.runCreditPurchase (w : World) (n : Nat) (event : StripeEvent) (purchase : Purchase)
    (now : Timestamp) (fate : Fate) : World :=
  match w.db.creditPurchase now purchase.userId purchase.creditUsd purchase.sessionId
      purchase.paymentIntent with
  | .error error => w.answer n event (.error (.ofSqlError error))
  | .ok (_, db) =>
      match fate with
      | .commit => { w with db }.advance n event (.credited purchase.sessionId)
      | .commitUnseen => { w with db }.answer n event (.error .databaseUnavailable)
      | .rollback => w.answer n event (.error .databaseUnavailable)

/-- The marker, once credited: whether it was stamped changes no answer. -/
def World.runSettleCheckoutIntent (w : World) (n : Nat) (event : StripeEvent) (sessionId : String)
    (now : Timestamp) (fate : Fate) : World :=
  let stamped :=
    if fate.committed then w.run ((w.db.settleCheckoutIntent now sessionId).map Prod.snd) else w
  stamped.answer n event (.ok ())

/-- One step; `none` when the action is not enabled.  Events of the other arms are
    not this handler's. -/
def step (w : World) (action : Action) : Option World :=
  if ∀ now ∈ action.now?, now ≤ w.clock then
    match action with
    | .tick clock => if w.clock ≤ clock then some { w with clock } else none
    | .recordCheckoutIntent now stripeSessionId userId expectedAmountCents expectedCreditUsd currency =>
        some (w.run (w.db.recordCheckoutIntent now stripeSessionId userId expectedAmountCents
          expectedCreditUsd currency))
    | .deliver event =>
        match event.arm with
        | .checkout => some
            { w with
              deliveries := { event, stage := .received } :: w.deliveries
              delivered := event :: w.delivered }
        | .ignored => some
            { w with
              delivered := event :: w.delivered
              answers := (event, .ok ()) :: w.answers }
        | .autopayIntent | .reversal => none
    | .checkoutIntent n =>
        match w.deliveries[n]? with
        | some { event, stage := .received } => some (w.runCheckoutIntent parser n event)
        | _ => none
    | .creditPurchase n now fate =>
        match w.deliveries[n]? with
        | some { event, stage := .corroborated purchase } =>
            some (w.runCreditPurchase n event purchase now fate)
        | _ => none
    | .settleCheckoutIntent n now fate =>
        match w.deliveries[n]? with
        | some { event, stage := .credited sessionId } =>
            some (w.runSettleCheckoutIntent n event sessionId now fate)
        | _ => none
    | .unreadable n =>
        match w.deliveries[n]? with
        | some { event, stage := .received } =>
            match corroborateEvent parser event.object with
            | .ok (some _) => some (w.answer n event (.error .databaseUnavailable))
            | _ => none
        | _ => none
    | .crash n => some { w with deliveries := w.deliveries.eraseIdx n }
  else none

/-- Before the first purchase: nothing was credited and no event is in flight. -/
structure World.Opening (w : World) : Prop where
  creditLedger : ∀ row ∈ w.db.creditLedger, row.entryType ≠ .purchase
  deliveries : w.deliveries = []

abbrev Reaches : World → World → Prop := Transition.Steps (step parser) Transition.anyStep

end ZeroRouter.Checkout
