import ZeroRouter.Stripe.System
import Mathlib.Data.List.MinMax

/-!
# The sweep of abandoned checkouts

`src/router/src/billing.rs` `sweep_expired_checkout_intents` and migration 0022's delete
trigger, next to the checkouts and the deliveries of `Stripe/System.lean`.

A pass is one transaction under READ COMMITTED.  Its `NOW()` is the moment it began; the
`DELETE` reads its candidates, and whether a candidate was credited, from the snapshot it starts
with, and deletes them one after the other.  A row another transaction changed meanwhile is
looked at again; the trigger's own queries see what is committed at that moment.  The rows are
gone once the pass commits, and until then whoever would change one of them waits.
-/

namespace ZeroRouter.Cleanup

open Relational

/-- `INTERVAL '1 day'`, on a server whose days have no seams. -/
def day : Timestamp := 86400 * 1000000

/-! ## The statements -/

/-- The session has a `credit_ledger` row. -/
def IsCredited (db : Db) (stripeSessionId : String) : Prop :=
  ∃ row ∈ db.creditLedger, row.stripeSessionId = some stripeSessionId

instance (db : Db) (stripeSessionId : String) : Decidable (IsCredited db stripeSessionId) :=
  inferInstanceAs (Decidable (∃ row ∈ db.creditLedger, _))

/-- The predicate of the sweep. -/
structure Expired (db : Db) (now : Timestamp) (retentionDays : Int)
    (row : StripeCheckoutIntent) : Prop where
  unsettled : row.settledAt = none
  old : row.createdAt < now - retentionDays * day
  uncredited : ¬ IsCredited db row.stripeSessionId

instance (db : Db) (now : Timestamp) (retentionDays : Int) (row : StripeCheckoutIntent) :
    Decidable (Expired db now retentionDays row) :=
  decidable_of_iff (row.settledAt = none ∧ row.createdAt < now - retentionDays * day ∧
      ¬ IsCredited db row.stripeSessionId)
    ⟨fun h => ⟨h.1, h.2.1, h.2.2⟩, fun h => ⟨h.unsettled, h.old, h.uncredited⟩⟩

/-- The rows the sweep's predicate holds of. -/
def expired (db : Db) (now : Timestamp) (retentionDays : Int) : List StripeCheckoutIntent :=
  db.stripeCheckoutIntents.rows.filter fun row => Expired db now retentionDays row

/-- `ORDER BY created_at LIMIT`: so many of the rows as there are up to the limit, and none
    left out that is older than one of them.  Rows of one age come in any order. -/
structure Oldest (rows : List StripeCheckoutIntent) (limit : Nat)
    (batch : List StripeCheckoutIntent) : Prop where
  chosen : ∀ row ∈ batch, row ∈ rows
  distinct : batch.Nodup
  many : batch.length = min limit rows.length
  oldest : ∀ row ∈ batch, ∀ other ∈ rows, other ∉ batch → row.createdAt ≤ other.createdAt

instance (rows : List StripeCheckoutIntent) (limit : Nat) (batch : List StripeCheckoutIntent) :
    Decidable (Oldest rows limit batch) :=
  decidable_of_iff ((∀ row ∈ batch, row ∈ rows) ∧ batch.Nodup ∧
      batch.length = min limit rows.length ∧
      ∀ row ∈ batch, ∀ other ∈ rows, other ∉ batch → row.createdAt ≤ other.createdAt)
    ⟨fun h => ⟨h.1, h.2.1, h.2.2.1, h.2.2.2⟩,
      fun h => ⟨h.chosen, h.distinct, h.many, h.oldest⟩⟩

/-- `reject_stripe_checkout_intent_mutation` on a `DELETE`. -/
def rejectStripeCheckoutIntentDelete (db : Db) (now : Timestamp) (old : StripeCheckoutIntent) :
    Except SqlError Unit :=
  if old.settledAt ≠ none then
    .error (.raised
      s!"stripe_checkout_intents rows that settled are never removed ({old.stripeSessionId})")
  else if IsCredited db old.stripeSessionId then
    .error (.raised <| "stripe_checkout_intents rows corroborating a credit ledger entry are " ++
      s!"never removed ({old.stripeSessionId})")
  else if old.createdAt > now - 7 * day then
    .error (.raised <| "stripe_checkout_intents rows are not removable until stripe can no " ++
      s!"longer complete them ({old.stripeSessionId})")
  else .ok ()

/-! ## The pass -/

/-- `CheckoutIntentSweep`. -/
structure CheckoutIntentSweep where
  removed : Nat
  oldest : Option Timestamp
  quotedCreditUsd : Decimal
  deriving DecidableEq, Repr

def CheckoutIntentSweep.of (removed : List StripeCheckoutIntent) : CheckoutIntentSweep where
  removed := removed.length
  oldest := (removed.map StripeCheckoutIntent.createdAt).min?
  quotedCreditUsd := (removed.map StripeCheckoutIntent.expectedCreditUsd).sum

/-- The `DELETE` under way: what it saw, the candidates it has not come to, and the rows it
    has deleted. -/
structure Deleting where
  snapshot : Db
  remaining : List StripeCheckoutIntent
  removed : List StripeCheckoutIntent

/-- A pass that holds the sweep lock. -/
structure Pass where
  now : Timestamp
  retentionDays : Int
  limit : Int
  deleting : Option Deleting

/-- The purchase system, the pass that holds the sweep lock, and the history of what passes
    answered. -/
structure World where
  purchases : Checkout.World
  pass : Option Pass
  answers : List (Except SqlError (Option CheckoutIntentSweep))

inductive Action where
  | purchases (action : Checkout.Action)
  /-- The transaction and the lock; a pass that does not get it is over. -/
  | sweep (now : Timestamp) (retentionDays limit : Int)
  /-- The `DELETE` starts. -/
  | scan (batch : List StripeCheckoutIntent)
  /-- The `DELETE` comes to a candidate. -/
  | delete (stripeSessionId : String)
  | commit
  /-- The pass fails: the connection, the lock timeout or a limit below zero. -/
  | fail

namespace World

/-- The rows the pass has deleted and not committed. -/
def removed (w : World) : List StripeCheckoutIntent :=
  match w.pass with
  | some { deleting := some deleting, .. } => deleting.removed
  | _ => []

/-- The session whose row an action changes or whose key it takes. -/
def touches (w : World) : Checkout.Action → Option String
  | .settleCheckoutIntent n _ _ =>
      match w.purchases.deliveries[n]? with
      | some { stage := .credited sessionId, .. } => some sessionId
      | _ => none
  | .recordCheckoutIntent _ stripeSessionId .. => some stripeSessionId
  | _ => none

/-- An action that has to wait for the pass. -/
def Waits (w : World) (action : Checkout.Action) : Prop :=
  ∃ sessionId ∈ w.touches action, ∃ row ∈ w.removed, row.stripeSessionId = sessionId

instance (w : World) (action : Checkout.Action) : Decidable (w.Waits action) :=
  decidable_of_iff (∃ sessionId ∈ (w.touches action).toList,
      ∃ row ∈ w.removed, row.stripeSessionId = sessionId)
    (by simp [Waits])

/-- The pass rolls back. -/
def abort (w : World) (error : SqlError) : World :=
  { w with pass := none, answers := .error error :: w.answers }

/-- The `DELETE` comes to a candidate: one that was settled meanwhile is passed over, any other
    goes through the trigger. -/
def runDelete (w : World) (pass : Pass) (deleting : Deleting) (row : StripeCheckoutIntent) :
    World :=
  let remaining := deleting.remaining.erase row
  match w.purchases.db.checkoutIntent row.stripeSessionId with
  | none => { w with pass := some { pass with deleting := some { deleting with remaining } } }
  | some current =>
      if current.settledAt ≠ none then
        { w with pass := some { pass with deleting := some { deleting with remaining } } }
      else
        match rejectStripeCheckoutIntentDelete w.purchases.db pass.now current with
        | .error error => w.abort error
        | .ok () =>
            { w with
              pass := some
                { pass with
                  deleting := some
                    { deleting with remaining, removed := current :: deleting.removed } } }

/-- The rows are gone. -/
def runCommit (w : World) (removed : List StripeCheckoutIntent) : World :=
  let stripeCheckoutIntents := w.purchases.db.stripeCheckoutIntents.deleteWhere fun row =>
    ∃ gone ∈ removed, gone.stripeSessionId = row.stripeSessionId
  { purchases := { w.purchases with db := { w.purchases.db with stripeCheckoutIntents } }
    pass := none
    answers := .ok (some (.of removed)) :: w.answers }

end World

/-- One step; `none` when the action is not enabled. -/
def step (parser : MetadataParser) (w : World) (action : Action) : Option World :=
  match action with
  | .purchases action =>
      if w.Waits action then none
      else (Checkout.step parser w.purchases action).map fun purchases => { w with purchases }
  | .sweep now retentionDays limit =>
      if now ≤ w.purchases.clock then
        match w.pass with
        | some _ => some { w with answers := .ok none :: w.answers }
        | none => some { w with pass := some { now, retentionDays, limit, deleting := none } }
      else none
  | .scan batch =>
      match w.pass with
      | some pass =>
          if pass.deleting.isNone ∧ 0 ≤ pass.limit ∧
              Oldest (expired w.purchases.db pass.now pass.retentionDays) pass.limit.toNat batch then
            some { w with
              pass := some
                { pass with
                  deleting := some
                    { snapshot := w.purchases.db, remaining := batch, removed := [] } } }
          else none
      | none => none
  | .delete stripeSessionId =>
      match w.pass with
      | some pass =>
          match pass.deleting with
          | some deleting =>
              (deleting.remaining.find? (·.stripeSessionId = stripeSessionId)).map fun row =>
                w.runDelete pass deleting row
          | none => none
      | none => none
  | .commit =>
      match w.pass with
      | some { deleting := some { remaining := [], removed, .. }, .. } => some (w.runCommit removed)
      | _ => none
  | .fail =>
      match w.pass with
      | some _ => some (w.abort (.protocol "the sweep did not finish"))
      | none => none

/-- Before the first purchase and between two passes. -/
structure World.Opening (w : World) : Prop where
  purchases : w.purchases.Opening
  pass : w.pass = none

end ZeroRouter.Cleanup
