import ZeroRouter.Stripe.Portal

/-!
# What the return page is told

`src/router/src/stripe.rs` `checkout_status` next to `create_checkout` and the webhook: a
buyer's page asks whether a session finished, the process asks Stripe unless it did so within
the last seconds, and drops a session that is no longer open from the cache of sessions to
reuse.  A process is told that a session is finished by such a read, or by a credit it applied
for it itself.
-/

namespace ZeroRouter.Portal

open Relational

/-- `CHECKOUT_SESSION_ID_PREFIX`. -/
def checkoutSessionIdPrefix : String := "cs_"

structure StatusEntry where
  status : String
  insertedAt : Timestamp

/-- `STATUS_CACHE_TTL`. -/
def statusCacheTtl : Timestamp := 8 * 1000000

/-- The process's `status_cache`. -/
abbrev StatusCache := List (String × StatusEntry)

/-- `HashMap::insert`. -/
def StatusCache.insert (cache : StatusCache) (sessionId : String) (entry : StatusEntry) :
    StatusCache :=
  (sessionId, entry) :: cache.filter fun slot => slot.1 ≠ sessionId

/-- The answer a session got, if it is recent. -/
def StatusCache.recent (cache : StatusCache) (clock : Timestamp) (sessionId : String) :
    Option String :=
  ((cache.lookup sessionId).filter fun entry => clock - entry.insertedAt < statusCacheTtl).map
    StatusEntry.status

/-- `StripeHttpError`, as far as `checkout_status` answers it. -/
inductive StatusFailure where
  | sessionNotFound
  | statusUnavailable
  | databaseUnavailable
  deriving DecidableEq, Repr

/-- A read that waits for Stripe, with what it took from the purchase record. -/
structure StatusRead where
  userId : Uuid
  grossCents : Int
  sessionId : String
  deriving DecidableEq, Repr

/-- The checkouts and their reuse, the status reads in flight, what this process was told is
    finished, and the history of what status reads were answered. -/
structure Shop where
  portal : World
  reads : List StatusRead
  statuses : StatusCache
  finished : List String
  shown : List (String × Except StatusFailure String)

/-- A status read is named by its place among those in flight. -/
inductive Visit where
  /-- A checkout, a delivery, another process or a restart; only status reads forget. -/
  | portal (action : Action)
  /-- `readable` is whether the purchase record can be read. -/
  | checkoutStatus (userId : Uuid) (sessionId : String) (readable : Bool)
  /-- Stripe's answer to a status read; `none` is no status. -/
  | sessionStatus (n : Nat) (status : Option String)
  /-- The client of a status read goes away. -/
  | abandonStatus (n : Nat)

namespace Shop

/-- The session a visit credits, its transaction known to have committed. -/
def credits (shop : Shop) : Visit → Option String
  | .portal (.purchases (.creditPurchase n now .commit)) =>
      match shop.portal.purchases.deliveries[n]? with
      | some { stage := .corroborated purchase, .. } =>
          match shop.portal.purchases.db.creditPurchase now purchase.userId purchase.creditUsd
              purchase.sessionId purchase.paymentIntent with
          | .ok _ => some purchase.sessionId
          | .error _ => none
      | _ => none
  | _ => none

/-- The session a visit tells the process is finished. -/
def learns (shop : Shop) : Visit → Option String
  | .sessionStatus n (some status) =>
      if status = "open" then none else shop.reads[n]?.map StatusRead.sessionId
  | visit => shop.credits visit

/-- A status read is over. -/
def respond (shop : Shop) (sessionId : String) (answer : Except StatusFailure String) : Shop :=
  { shop with shown := (sessionId, answer) :: shop.shown }

/-- `checkout_status` up to Stripe.  A session nobody priced and one priced for somebody else
    are the same answer. -/
def runCheckoutStatus (shop : Shop) (userId : Uuid) (sessionId : String) (readable : Bool) :
    Shop :=
  if ¬ checkoutSessionIdPrefix.toList <+: sessionId.toList then
    shop.respond sessionId (.error .sessionNotFound)
  else if readable = false then
    shop.respond sessionId (.error .databaseUnavailable)
  else
    match (shop.portal.purchases.db.checkoutIntent sessionId).filter (·.userId = userId) with
    | none => shop.respond sessionId (.error .sessionNotFound)
    | some intent =>
        match shop.statuses.recent shop.portal.purchases.clock intent.stripeSessionId with
        | some status => shop.respond sessionId (.ok status)
        | none =>
            { shop with
              reads :=
                { userId := intent.userId
                  grossCents := intent.expectedAmountCents
                  sessionId := intent.stripeSessionId } :: shop.reads }

/-- `checkout_status` once Stripe answered. -/
def runSessionStatus (shop : Shop) (n : Nat) (read : StatusRead) (status : Option String) : Shop :=
  let shop := { shop with reads := shop.reads.eraseIdx n }
  match status with
  | none => shop.respond read.sessionId (.error .statusUnavailable)
  | some status =>
      let portal :=
        if status ≠ "open" then
          { shop.portal with
            cache :=
              shop.portal.cache.forgetSession read.userId read.grossCents read.sessionId }
        else shop.portal
      let statuses := shop.statuses.insert read.sessionId
        { status, insertedAt := portal.purchases.clock }
      { shop with portal, statuses }.respond read.sessionId (.ok status)

end Shop

variable (parser : MetadataParser) (text : MetadataText) (settings : StripeSettings)
  (returnUrl : String)

/-- One step, before what it tells the process. -/
def Shop.move (shop : Shop) (visit : Visit) : Option Shop :=
  match visit with
  | .portal (.forgetSession ..) => none
  | .portal .restart => some
      { shop with
        portal := { shop.portal with checkouts := [], cache := [] }
        reads := []
        statuses := [] }
  | .portal action =>
      (step parser text settings returnUrl shop.portal action).map fun portal =>
        { shop with portal }
  | .checkoutStatus userId sessionId readable =>
      some (shop.runCheckoutStatus userId sessionId readable)
  | .sessionStatus n status =>
      shop.reads[n]?.map fun read => shop.runSessionStatus n read status
  | .abandonStatus n => some { shop with reads := shop.reads.eraseIdx n }

/-- One step; `none` when the visit is not enabled. -/
def Shop.step (shop : Shop) (visit : Visit) : Option Shop :=
  (shop.move parser text settings returnUrl visit).map fun next =>
    { next with finished := (shop.learns visit).toList ++ shop.finished }

/-- Before the first sale of this process. -/
structure Shop.Opening (shop : Shop) : Prop where
  portal : shop.portal.Opening
  reads : shop.reads = []
  statuses : shop.statuses = []
  finished : shop.finished = []

end ZeroRouter.Portal
