import ZeroRouter.Stripe.Checkout
import ZeroRouter.Stripe.System

/-!
# Checkouts and their reuse

`src/router/src/stripe.rs` `create_checkout` as requests in flight, with the cache of open
sessions they share, next to the webhook and its database.  A request waits for Stripe and
for the database, and anything may run in between: other requests of the same buyer,
status reads that drop a session, deliveries, and other processes that record purchases of
their own.  A restart loses the requests and the cache.
-/

namespace ZeroRouter.Portal

open Relational

/-- A session Stripe created; its ids bear `CHECKOUT_SESSION_ID_PREFIX`. -/
structure CheckoutSession where
  id : String
  clientSecret : String
  isSessionId : "cs_".toList <+: id.toList
  deriving DecidableEq

structure ReuseEntry where
  session : CheckoutSession
  insertedAt : Timestamp
  deriving DecidableEq

/-- `SESSION_REUSE_TTL`. -/
def sessionReuseTtl : Timestamp := 600 * 1000000

/-- The process's `reuse_cache`. -/
abbrev ReuseCache := List (ReuseKey × ReuseEntry)

/-- `HashMap::insert`. -/
def ReuseCache.insert (cache : ReuseCache) (key : ReuseKey) (entry : ReuseEntry) : ReuseCache :=
  (key, entry) :: cache.filter fun slot => slot.1 ≠ key

/-- The session a request is handed back, if its slot holds one that is young enough. -/
def ReuseCache.reusable (cache : ReuseCache) (clock : Timestamp) (key : ReuseKey) :
    Option CheckoutSession :=
  ((cache.lookup key).filter fun entry => clock - entry.insertedAt < sessionReuseTtl).map
    ReuseEntry.session

/-- `forget_session`: the slots of both rails, if they hold this session. -/
def ReuseCache.forgetSession (cache : ReuseCache) (userId : Uuid) (grossCents : Int)
    (sessionId : String) : ReuseCache :=
  cache.filter fun (key, entry) =>
    ¬ (key.1 = userId ∧ key.2.2 = grossCents ∧ entry.session.id = sessionId)

/-- How far a request has got. -/
inductive Stage where
  | priced
  | missed
  | created (session : CheckoutSession)
  | recorded (session : CheckoutSession)

structure Checkout where
  request : CheckoutRequest
  params : CheckoutSessionParams
  stage : Stage

/-- A session whose purchase is on record: what it was priced at and the form it was
    created from. -/
structure Sale where
  params : CheckoutSessionParams
  form : Form
  session : CheckoutSession

/-- The purchase system, the requests in flight, this process's cache, and the history of
    sales and of what requests were answered. -/
structure World where
  purchases : ZeroRouter.Checkout.World
  checkouts : List Checkout
  cache : ReuseCache
  sales : List Sale
  answers : List (CheckoutRequest × Except CheckoutFailure CheckoutSession)

/-- A request is named by its place among those in flight. -/
inductive Action where
  /-- Deliveries of events, and purchases other processes record. -/
  | purchases (action : ZeroRouter.Checkout.Action)
  | createCheckout (request : CheckoutRequest)
  | lookup (n : Nat)
  /-- Stripe's answer to the form; `none` is no session. -/
  | createSession (n : Nat) (response : Option CheckoutSession)
  | recordIntent (n : Nat) (now : Timestamp) (fate : Fate)
  | cacheSession (n : Nat)
  /-- A status read found a session that is no longer open. -/
  | forgetSession (userId : Uuid) (grossCents : Int) (sessionId : String)
  /-- The client of a request goes away. -/
  | abandon (n : Nat)
  | restart

namespace World

/-- The request moves on. -/
def advance (w : World) (n : Nat) (checkout : Checkout) (stage : Stage) : World :=
  { w with checkouts := w.checkouts.set n { checkout with stage } }

/-- The request is answered. -/
def answer (w : World) (n : Nat) (request : CheckoutRequest)
    (response : Except CheckoutFailure CheckoutSession) : World :=
  { w with
    checkouts := w.checkouts.eraseIdx n
    answers := (request, response) :: w.answers }

end World

variable (parser : MetadataParser) (text : MetadataText) (settings : StripeSettings)
  (returnUrl : String)

/-- `create_checkout` up to the cache. -/
def World.runCreateCheckout (w : World) (request : CheckoutRequest) : World :=
  match request.price settings returnUrl with
  | .error failure => { w with answers := (request, .error failure) :: w.answers }
  | .ok params => { w with checkouts := { request, params, stage := .priced } :: w.checkouts }

/-- The look into the cache. -/
def World.runLookup (w : World) (n : Nat) (checkout : Checkout) : World :=
  match w.cache.reusable w.purchases.clock checkout.params.reuseKey with
  | some session => w.answer n checkout.request (.ok session)
  | none => w.advance n checkout .missed

/-- `create_checkout_session`. -/
def World.runCreateSession (w : World) (n : Nat) (checkout : Checkout)
    (response : Option CheckoutSession) : World :=
  match checkoutSessionForm text checkout.params, response with
  | some _, some session => w.advance n checkout (.created session)
  | _, _ => w.answer n checkout.request (.error .checkoutFailed)

/-- The purchase record of a created session.  A commit nobody saw withholds the secret. -/
def World.runRecordIntent (w : World) (n : Nat) (checkout : Checkout) (session : CheckoutSession)
    (form : Form) (now : Timestamp) (fate : Fate) : World :=
  match w.purchases.db.recordCheckoutIntent now session.id checkout.params.userId
      checkout.params.grossCents checkout.params.creditUsd checkoutCurrency, fate with
  | .ok db, .commit =>
      { w with
        purchases := { w.purchases with db }
        sales := { params := checkout.params, form, session } :: w.sales }.advance n checkout
          (.recorded session)
  | .ok db, .commitUnseen =>
      { w with purchases := { w.purchases with db } }.answer n checkout.request
        (.error .checkoutFailed)
  | _, _ => w.answer n checkout.request (.error .checkoutFailed)

/-- The cache entry, and the answer. -/
def World.runCacheSession (w : World) (n : Nat) (checkout : Checkout) (session : CheckoutSession) :
    World :=
  { w with
    cache := w.cache.insert checkout.params.reuseKey
      { session, insertedAt := w.purchases.clock } }.answer n checkout.request (.ok session)

/-- One step; `none` when the action is not enabled. -/
def step (w : World) (action : Action) : Option World :=
  match action with
  | .purchases action => (ZeroRouter.Checkout.step parser w.purchases action).map fun purchases =>
      { w with purchases }
  | .createCheckout request => some (w.runCreateCheckout settings returnUrl request)
  | .lookup n =>
      match w.checkouts[n]? with
      | some checkout =>
          match checkout.stage with
          | .priced => some (w.runLookup n checkout)
          | _ => none
      | none => none
  | .createSession n response =>
      match w.checkouts[n]? with
      | some checkout =>
          match checkout.stage with
          | .missed => some (w.runCreateSession text n checkout response)
          | _ => none
      | none => none
  | .recordIntent n now fate =>
      match w.checkouts[n]? with
      | some checkout =>
          match checkout.stage, checkoutSessionForm text checkout.params with
          | .created session, some form =>
              if now ≤ w.purchases.clock then
                some (w.runRecordIntent n checkout session form now fate)
              else none
          | _, _ => none
      | none => none
  | .cacheSession n =>
      match w.checkouts[n]? with
      | some checkout =>
          match checkout.stage with
          | .recorded session => some (w.runCacheSession n checkout session)
          | _ => none
      | none => none
  | .forgetSession userId grossCents sessionId =>
      some { w with cache := w.cache.forgetSession userId grossCents sessionId }
  | .abandon n => some { w with checkouts := w.checkouts.eraseIdx n }
  | .restart => some { w with checkouts := [], cache := [] }

/-- Before the first sale of this process: the database may hold others'. -/
structure World.Opening (w : World) : Prop where
  purchases : w.purchases.Opening
  /-- `stripe_checkout_intents.user_id REFERENCES users`. -/
  owners : ∀ intent ∈ w.purchases.db.stripeCheckoutIntents,
    ∃ user ∈ w.purchases.db.users, user.id = intent.userId
  checkouts : w.checkouts = []
  cache : w.cache = []
  sales : w.sales = []
  answers : w.answers = []

abbrev Reaches : World → World → Prop :=
  Transition.Steps (step parser text settings returnUrl) Transition.anyStep

end ZeroRouter.Portal
