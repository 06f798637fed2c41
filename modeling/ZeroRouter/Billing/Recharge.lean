import ZeroRouter.Billing.System
import ZeroRouter.Stripe.Autopay

/-!
# Charging a saved card

`src/router/src/stripe.rs`: the sweep that claims and charges, the reconciliation that
replays a claim or looks its intent up, and the `payment_intent` arm of the webhook, any
number of each at once, around the billing system and Stripe.

A task is one of them at the statement or the call it makes next; a task may stop for
good at any point, which stands for every error and for a dead process.  Stripe makes one
intent of the requests under an idempotency key as long as it remembers the key, and
refuses a request whose form is another.  What it answers need not arrive.
-/

namespace ZeroRouter

open Relational

/-- One of `autopay_candidates`, and the top-up it is listed with. -/
def AutopayDb.autopayCandidate (db : AutopayDb) (userId : Uuid) (topupUsd : Decimal) : Prop :=
  db.userWhere userId (fun user settings =>
      settings.autopayEnabled = true ∧ settings.autopayTopupUsd = some topupUsd ∧
        (∃ threshold ∈ settings.autopayThresholdUsd, user.creditBalanceUsd < threshold) ∧
        settings.stripeCustomerId ≠ none ∧ autopayEligible user settings) ∧
    ¬ ∃ row ∈ db.stripeAutopayIntents, row.userId = userId ∧ row.status = .pending

instance (db : AutopayDb) (userId : Uuid) (topupUsd : Decimal) :
    Decidable (db.autopayCandidate userId topupUsd) :=
  inferInstanceAs (Decidable (db.userWhere _ _ ∧ ¬ ∃ _ ∈ _, _))

/-- `autopay_tax`: the tax frozen on a row. -/
def AutopayDb.autopayTax (db : AutopayDb) (paymentIntentId : String) : Option TaxQuote :=
  (db.intent? paymentIntentId).bind fun row =>
    row.taxAmountUsd.map fun taxUsd => { taxUsd, calculationId := row.taxCalculationId }

/-- `withheld_autopay_intents`. -/
def AutopayDb.withheldAutopayIntents (db : AutopayDb) : List (String × Uuid × Decimal) :=
  (db.stripeAutopayIntents.rows.filter fun row => row.status = .withheld).map fun row =>
    (row.paymentIntentId, row.userId, row.chargeAmountUsd + row.taxAmountUsd.getD 0)

/-- The customer saved for a user. -/
def AutopayDb.stripeCustomer (db : AutopayDb) (userId : Uuid) : Option String :=
  (db.autopaySettings.find fun row => row.userId = userId).bind AutopaySettings.stripeCustomerId

/-- `intent_id.strip_prefix("local_")`. -/
def claimKey (paymentIntentId : String) : Option String :=
  if "local_".toList <+: paymentIntentId.toList then
    some (String.ofList (paymentIntentId.toList.drop 6))
  else none

/-- `AUTOPAY_RECONCILE_AFTER_MINUTES`. -/
def autopayReconcileAfterMinutes : Timestamp := 30

/-- `AUTOPAY_REPLAY_MAX_AGE_MINUTES`. -/
def autopayReplayMaxAgeMinutes : Timestamp := 20 * 60

/-- `INTERVAL '1 minute'`. -/
def minute : Timestamp := 60 * 1000000

/-- `stale_autopay_intents`. -/
def StripeAutopayIntent.stale (row : StripeAutopayIntent) (now : Timestamp) : Prop :=
  row.status = .pending ∧ row.createdAt < now - autopayReconcileAfterMinutes * minute ∧
    now - autopayReplayMaxAgeMinutes * minute ≤ row.createdAt

instance (row : StripeAutopayIntent) (now : Timestamp) : Decidable (row.stale now) :=
  inferInstanceAs (Decidable (_ ∧ _ ∧ _))

/-- A transaction that names no intent of autopay's. -/
def Billing.Action.isAside : Billing.Action → Bool
  | .claimAutopayAttempt .. | .renameClaim .. | .dropClaim .. | .freezeAutopayTax ..
  | .settleAutopayIntent .. | .failAutopayIntent .. | .recordAutopayCharge .. => false
  | _ => true

namespace Recharge

open Billing (StripeObjects)

/-! ## Stripe -/

/-- What became of an intent; `awaiting` waits for the customer or for a capture. -/
inductive IntentStatus where
  | processing
  | awaiting
  | failed
  | succeeded
  deriving DecidableEq, Repr

structure PaymentIntent where
  id : String
  idempotencyKey : String
  form : ChargeForm
  status : IntentStatus
  /-- Stripe still knows the key. -/
  remembered : Bool
  deriving DecidableEq, Repr

/-- `amount_received`: a charge is captured whole, when it succeeds. -/
def PaymentIntent.amountReceived (intent : PaymentIntent) : Int :=
  if intent.status = .succeeded then intent.form.amountCents else 0

/-- What comes back of a POST. -/
inductive Reply where
  /-- Nothing, or a success whose body names no intent. -/
  | lost
  /-- A success that names the intent, and whether it has succeeded. -/
  | accepted (paymentIntentId : String) (succeeded : Bool)
  /-- A server error, a 429 or a 409, which may name the intent. -/
  | indeterminate (paymentIntentId : Option String)
  /-- Any other refusal, naming the intent it failed. -/
  | declined (paymentIntentId : String)
  /-- Any other refusal. -/
  | rejected
  deriving DecidableEq, Repr

/-- Stripe knows the key for this intent. -/
def PaymentIntent.answers (intent : PaymentIntent) (idempotencyKey : String) : Prop :=
  intent.remembered = true ∧ intent.idempotencyKey = idempotencyKey

instance (intent : PaymentIntent) (idempotencyKey : String) :
    Decidable (intent.answers idempotencyKey) :=
  inferInstanceAs (Decidable (_ ∧ _))

/-- The intent a reply names is the one made of the same request. -/
def Reply.names (intents : List PaymentIntent) (idempotencyKey : String) (form : ChargeForm)
    (paymentIntentId : String) (p : IntentStatus → Prop) : Prop :=
  ∃ intent ∈ intents, intent.id = paymentIntentId ∧ intent.answers idempotencyKey ∧
    intent.form = form ∧ p intent.status

instance (intents : List PaymentIntent) (idempotencyKey : String) (form : ChargeForm)
    (paymentIntentId : String) (p : IntentStatus → Prop) [DecidablePred p] :
    Decidable (Reply.names intents idempotencyKey form paymentIntentId p) :=
  inferInstanceAs (Decidable (∃ _ ∈ _, _))

/-- The replies a request may get, over the intents there are once it was processed.  A
    request under a known key is refused when its form is another; a new one may be
    refused for what it asks, and leaves nothing behind. -/
def Reply.honest (intents : List PaymentIntent) (idempotencyKey : String) (form : ChargeForm) :
    Reply → Prop
  | .lost => True
  | .accepted paymentIntentId succeeded =>
      names intents idempotencyKey form paymentIntentId fun status =>
        status ≠ .failed ∧ (succeeded = true → status = .succeeded)
  | .indeterminate none => True
  | .indeterminate (some paymentIntentId) =>
      names intents idempotencyKey form paymentIntentId fun _ => True
  | .declined paymentIntentId =>
      names intents idempotencyKey form paymentIntentId fun status => status = .failed
  | .rejected => ∀ intent ∈ intents, intent.answers idempotencyKey → intent.form ≠ form

instance (intents : List PaymentIntent) (idempotencyKey : String) (form : ChargeForm)
    (reply : Reply) : Decidable (reply.honest intents idempotencyKey form) := by
  unfold Reply.honest
  split <;> infer_instance

/-- An event Stripe sends about an intent: its fields read as the intent's, and its type says
    what became of it. -/
@[mk_iff]
structure PaymentIntent.Reports (parser : MetadataParser) (intent : PaymentIntent)
    (event : StripeEvent) : Prop where
  id : event.object.str "id" = some intent.id
  userId : (metadataStr event.object "user_id").bind parser.uuid = some intent.form.userId
  creditUsd : (metadataStr event.object "credit_usd").bind parser.decimal =
    some intent.form.creditUsd
  taxCents : autopayTaxCents event.object = some intent.form.taxCents
  kind : event.eventType = "payment_intent.succeeded" ∧ intent.status = .succeeded ∨
    event.eventType = "payment_intent.payment_failed" ∧ intent.status = .failed
  amountReceived : (event.object.get "amount_received").bind Value.asI64 =
    some intent.amountReceived
  currency : (event.object.str "currency").map toAsciiLowercase = some checkoutCurrency

instance (parser : MetadataParser) (intent : PaymentIntent) (event : StripeEvent) :
    Decidable (intent.Reports parser event) :=
  decidable_of_iff _ (PaymentIntent.reports_iff parser intent event).symm

/-! ## Tasks -/

structure Claim where
  userId : Uuid
  topupUsd : Decimal
  idempotencyKey : String
  deriving DecidableEq, Repr

/-- The id the claim's row is inserted under. -/
def Claim.localId (claim : Claim) : String := AutopayDb.localId claim.idempotencyKey

/-- What `replay_charge` does with an intent it has attached. -/
inductive Next where
  | settle
  | fail
  | hold
  deriving DecidableEq, Repr

/-- A task, by what it does next. -/
inductive Task where
  /-- `charge_candidate` claims. -/
  | claiming (userId : Uuid) (topupUsd : Decimal)
  /-- The reconciliation asks whether autopay is still armed. -/
  | rearming (claim : Claim)
  /-- `replay_charge` reads the customer. -/
  | replaying (claim : Claim)
  /-- It asks Stripe for a saved card. -/
  | listing (claim : Claim) (customer : String)
  /-- It reads the claim's tax. -/
  | taxing (claim : Claim) (customer paymentMethod : String)
  /-- It has the tax calculated and freezes it. -/
  | pricing (claim : Claim) (customer paymentMethod : String)
  /-- It reads eligibility. -/
  | guarding (claim : Claim) (form : ChargeForm)
  /-- It posts. -/
  | posting (claim : Claim) (form : ChargeForm)
  /-- `attach_autopay_intent`, its first statement. -/
  | attaching (claim : Claim) (paymentIntentId : String) (next : Next)
  /-- Its second. -/
  | dropping (claim : Claim) (paymentIntentId : String) (next : Next)
  /-- `settle_autopay_intent`. -/
  | settling (paymentIntentId : String) (collected : Uuid × Decimal × Decimal)
  /-- `fail_autopay_intent`. -/
  | failing (paymentIntentId : String)
  /-- `reconcile_real_intent` asks Stripe for the intent. -/
  | lookingUp (paymentIntentId : String) (collected : Uuid × Decimal × Decimal)
  /-- The failed arm of the webhook records the charge. -/
  | recording (paymentIntentId : String) (collected : Uuid × Decimal × Decimal)
  deriving DecidableEq, Repr

structure World where
  billing : Billing.World
  intents : List PaymentIntent
  tasks : List Task

/-- A task is named by its place among those running. -/
inductive Action where
  /-- Any other transaction of the billing system. -/
  | billing (action : Billing.Action)
  /-- `ensure_stripe_customer`, its `UPDATE`. -/
  | saveCustomer (userId : Uuid) (customer : String)
  /-- The sweep lists a candidate. -/
  | sweep (userId : Uuid) (topupUsd : Decimal)
  /-- The reconciliation lists a stale row. -/
  | reconcile (now : Timestamp) (paymentIntentId : String)
  /-- Stripe delivers an event. -/
  | deliver (now : Timestamp) (event : StripeEvent)
  /-- An intent moves on at Stripe. -/
  | progress (paymentIntentId : String) (status : IntentStatus)
  /-- Stripe forgets an idempotency key. -/
  | forget (idempotencyKey : String)
  | claim (n : Nat) (now : Timestamp) (idempotencyKey : String)
  | rearm (n : Nat)
  | replay (n : Nat)
  /-- The customer's first saved card, and the id it has. -/
  | list (n : Nat) (card : Option (Option String))
  | readTax (n : Nat)
  | freezeTax (n : Nat) (now : Timestamp) (calculation : Option TaxCalculation)
  | guard (n : Nat)
  /-- `made` is the intent Stripe makes of a request under a new key. -/
  | post (n : Nat) (made : Option (String × IntentStatus)) (reply : Reply)
  | attach (n : Nat) (now : Timestamp)
  | drop (n : Nat)
  | settle (n : Nat) (now : Timestamp)
  | fail (n : Nat) (now : Timestamp)
  | lookUp (n : Nat)
  | record (n : Nat) (now : Timestamp)
  /-- The task stops. -/
  | crash (n : Nat)

namespace World

abbrev db (w : World) : AutopayDb := w.billing.db

/-- The task is done. -/
def finish (w : World) (n : Nat) : World := { w with tasks := w.tasks.eraseIdx n }

/-- The task goes on. -/
def goto (w : World) (n : Nat) (task : Task) : World := { w with tasks := w.tasks.set n task }

def start (w : World) (task : Task) : World := { w with tasks := task :: w.tasks }

/-- The columns of `users` autopay uses were written. -/
def withSettings (w : World) (settings : Table autopaySettingsTable) : World :=
  { w with billing := { w.billing with db := { w.db with autopaySettings := settings } } }

def runSaveCustomer (w : World) (userId : Uuid) (customer : String) : World :=
  match w.db.autopaySettings.updateWhere
      (fun row => row.userId = userId ∧ row.stripeCustomerId = none)
      (fun row => { row with stripeCustomerId := some customer }) with
  | .ok settings => w.withSettings settings
  | .error _ => w

/-! ## The sweep and the reconciliation -/

def runReconcile (w : World) (row : StripeAutopayIntent) : World :=
  match claimKey row.paymentIntentId with
  | some idempotencyKey =>
      w.start (.rearming { userId := row.userId, topupUsd := row.amountUsd, idempotencyKey })
  | none =>
      w.start (.lookingUp row.paymentIntentId (row.userId, row.amountUsd, row.chargeAmountUsd))

/-- `charge_candidate`. -/
def runClaim (w : World) (n : Nat) (now : Timestamp) (userId : Uuid) (topupUsd : Decimal)
    (idempotencyKey : String) : World :=
  match depositFeeQuote topupUsd .card with
  | none => w.finish n
  | some quote =>
      let claimed := { w with
        billing := w.billing.runClaim now userId topupUsd quote.grossUsd idempotencyKey }
      match w.db.claimAutopayAttempt now userId topupUsd quote.grossUsd idempotencyKey with
      | .ok (true, _) => claimed.goto n (.replaying { userId, topupUsd, idempotencyKey })
      | _ => claimed.finish n

/-- `reconcile_real_intent`, once Stripe has answered. -/
def runLookUp (w : World) (n : Nat) (paymentIntentId : String)
    (collected : Uuid × Decimal × Decimal) : World :=
  match w.intents.find? fun intent => intent.id = paymentIntentId with
  | none => w.finish n
  | some intent =>
      match intent.status with
      | .succeeded => w.goto n (.settling paymentIntentId collected)
      | .processing => w.finish n
      | .awaiting | .failed => w.goto n (.failing paymentIntentId)

/-! ## `replay_charge` -/

/-- The card is chosen and the gross priced. -/
def runList (w : World) (n : Nat) (claim : Claim) (customer : String)
    (card : Option (Option String)) : World :=
  match card.join with
  | none => w.goto n (.failing claim.localId)
  | some paymentMethod =>
      match cardGross claim.topupUsd with
      | none => w.finish n
      | some (_, none) => w.goto n (.failing claim.localId)
      | some (_, some _) => w.goto n (.taxing claim customer paymentMethod)

/-- The tax is fixed. -/
def runForm (provenance : Uuid → Decimal → String) (w : World) (n : Nat) (claim : Claim)
    (customer paymentMethod : String) (tax : TaxQuote) : World :=
  match cardGross claim.topupUsd with
  | some (quote, some grossCents) =>
      match chargeForm provenance customer paymentMethod claim.userId claim.topupUsd quote
          grossCents tax with
      | some form => w.goto n (.guarding claim form)
      | none => w.goto n (.failing claim.localId)
  | _ => w.finish n

def runFreezeTax (provenance : Uuid → Decimal → String) (w : World) (n : Nat) (now : Timestamp)
    (claim : Claim) (customer paymentMethod : String) (calculation : Option TaxCalculation) :
    World :=
  let priced := calculateAutopayTax calculation
  let frozen := { w with
    billing := w.billing.runAutopay ((w.db.freezeAutopayTax now claim.localId priced.taxUsd
      priced.calculationId).map Prod.snd) }
  match w.db.freezeAutopayTax now claim.localId priced.taxUsd priced.calculationId with
  | .ok (0, _) => frozen.finish n
  | .ok (_, db) =>
      match db.autopayTax claim.localId with
      | some tax => frozen.runForm provenance n claim customer paymentMethod tax
      | none => frozen.finish n
  | .error _ => frozen.finish n

/-- The request reached Stripe, which made an intent of it if the key is new. -/
def charge (w : World) (claim : Claim) (form : ChargeForm) :
    Option (String × IntentStatus) → World
  | none => w
  | some (id, status) =>
      { w with
        intents :=
          { id, idempotencyKey := claim.idempotencyKey, form, status, remembered := true } ::
            w.intents }

/-- What `replay_charge` makes of the reply. -/
def runReply (w : World) (n : Nat) (claim : Claim) : Reply → World
  | .lost | .indeterminate none => w.finish n
  | .accepted paymentIntentId succeeded =>
      w.goto n (.attaching claim paymentIntentId (if succeeded then .settle else .hold))
  | .indeterminate (some paymentIntentId) => w.goto n (.attaching claim paymentIntentId .hold)
  | .declined paymentIntentId => w.goto n (.attaching claim paymentIntentId .fail)
  | .rejected => w.goto n (.failing claim.localId)

/-- The intent is attached. -/
def runNext (w : World) (n : Nat) (claim : Claim) (paymentIntentId : String) : Next → World
  | .hold => w.finish n
  | .fail => w.goto n (.failing paymentIntentId)
  | .settle =>
      match depositFeeQuote claim.topupUsd .card with
      | none => w.finish n
      | some quote =>
          w.goto n (.settling paymentIntentId (claim.userId, claim.topupUsd, quote.grossUsd))

def runAttach (w : World) (n : Nat) (now : Timestamp) (claim : Claim) (paymentIntentId : String)
    (next : Next) : World :=
  let renamed := { w with
    billing := w.billing.runRename now claim.idempotencyKey paymentIntentId }
  match w.db.renameClaim now claim.idempotencyKey paymentIntentId with
  | .ok (0, _) => renamed.goto n (.dropping claim paymentIntentId next)
  | .ok _ => renamed.runNext n claim paymentIntentId next
  | .error _ => renamed.finish n

/-! ## The webhook -/

/-- `handle_autopay_intent_event`; a failed settlement is answered with an error, and Stripe
    delivers the event again. -/
def runReport (w : World) (now : Timestamp) : AutopayReport → World
  | .untouched => w
  | .failed paymentIntentId none => w.start (.failing paymentIntentId)
  | .failed paymentIntentId (some collected) => w.start (.recording paymentIntentId collected)
  | .succeeded paymentIntentId collected =>
      { w with billing := w.billing.runSettle now paymentIntentId (some collected) }

end World

/-! ## Steps -/

variable (stripe : StripeObjects) (bounds : CheckoutBounds) (parser : MetadataParser)
  (creditText : Decimal → String) (provenance : Uuid → String → String)

/-- The mark of a charge: the HMAC over the user and the credit as it prints. -/
def markOf (userId : Uuid) (creditUsd : Decimal) : String :=
  provenance userId (creditText creditUsd)

/-- Stripe may make this of a request under the key: nothing when it knows the key, and
    otherwise an intent under an id of its own. -/
def World.mayMake (w : World) (idempotencyKey : String) (made : Option (String × IntentStatus)) :
    Prop :=
  ∀ new ∈ made, (∀ intent ∈ w.intents, ¬ intent.answers idempotencyKey ∧ intent.id ≠ new.1) ∧
    stripe.object new.1 = .paymentIntent none

instance (w : World) (idempotencyKey : String) (made : Option (String × IntentStatus)) :
    Decidable (w.mayMake stripe idempotencyKey made) :=
  inferInstanceAs (Decidable (∀ _ ∈ made, _))

/-- An intent of ours moves on until it succeeds or fails. -/
def World.runProgress (w : World) (paymentIntentId : String) (status : IntentStatus) : World :=
  { w with
    intents := w.intents.map fun intent =>
      if intent.id = paymentIntentId ∧ intent.status ≠ .succeeded ∧ intent.status ≠ .failed then
        { intent with status }
      else intent }

def World.runForget (w : World) (idempotencyKey : String) : World :=
  { w with
    intents := w.intents.map fun intent =>
      if intent.idempotencyKey = idempotencyKey then { intent with remembered := false }
      else intent }

/-- One step; `none` when the action is not enabled. -/
def step (w : World) : Action → Option World
  | .billing action =>
      if action.isAside = true then
        (Billing.step stripe bounds w.billing action).map fun billing => { w with billing }
      else none
  | .saveCustomer userId customer => some (w.runSaveCustomer userId customer)
  | .sweep userId topupUsd =>
      if w.db.autopayCandidate userId topupUsd then some (w.start (.claiming userId topupUsd))
      else none
  | .reconcile now paymentIntentId =>
      match w.db.intent? paymentIntentId with
      | some row => if row.stale now then some (w.runReconcile row) else none
      | none => none
  | .deliver now event =>
      if ∃ intent ∈ w.intents, intent.Reports parser event then
        match readAutopayEvent parser provenance event with
        | .ok report => some (w.runReport now report)
        | .error _ => some w
      else none
  | .progress paymentIntentId status => some (w.runProgress paymentIntentId status)
  | .forget idempotencyKey => some (w.runForget idempotencyKey)
  | .claim n now idempotencyKey =>
      match w.tasks[n]? with
      | some (.claiming userId topupUsd) =>
          if idempotencyKey ∈ w.billing.claimed then none
          else some (w.runClaim n now userId topupUsd idempotencyKey)
      | _ => none
  | .rearm n =>
      match w.tasks[n]? with
      | some (.rearming claim) =>
          if w.db.autopayStillArmed claim.userId then some (w.goto n (.replaying claim))
          else some (w.finish n)
      | _ => none
  | .replay n =>
      match w.tasks[n]? with
      | some (.replaying claim) =>
          match w.db.stripeCustomer claim.userId with
          | some customer => some (w.goto n (.listing claim customer))
          | none => some (w.goto n (.failing claim.localId))
      | _ => none
  | .list n card =>
      match w.tasks[n]? with
      | some (.listing claim customer) => some (w.runList n claim customer card)
      | _ => none
  | .readTax n =>
      match w.tasks[n]? with
      | some (.taxing claim customer paymentMethod) =>
          match w.db.autopayTax claim.localId with
          | some tax =>
              some (w.runForm (markOf creditText provenance) n claim customer paymentMethod tax)
          | none => some (w.goto n (.pricing claim customer paymentMethod))
      | _ => none
  | .freezeTax n now calculation =>
      match w.tasks[n]? with
      | some (.pricing claim customer paymentMethod) =>
          some (w.runFreezeTax (markOf creditText provenance) n now claim customer paymentMethod
            calculation)
      | _ => none
  | .guard n =>
      match w.tasks[n]? with
      | some (.guarding claim form) =>
          if w.db.autopayStillArmed claim.userId then some (w.goto n (.posting claim form))
          else some (w.finish n)
      | _ => none
  | .post n made reply =>
      match w.tasks[n]? with
      | some (.posting claim form) =>
          if w.mayMake stripe claim.idempotencyKey made ∧
              reply.honest (w.charge claim form made).intents claim.idempotencyKey form then
            some ((w.charge claim form made).runReply n claim reply)
          else none
      | _ => none
  | .attach n now =>
      match w.tasks[n]? with
      | some (.attaching claim paymentIntentId next) =>
          some (w.runAttach n now claim paymentIntentId next)
      | _ => none
  | .drop n =>
      match w.tasks[n]? with
      | some (.dropping claim paymentIntentId next) =>
          some (({ w with billing := w.billing.runDrop claim.idempotencyKey }).runNext n claim
            paymentIntentId next)
      | _ => none
  | .settle n now =>
      match w.tasks[n]? with
      | some (.settling paymentIntentId collected) =>
          some (({ w with
            billing := w.billing.runSettle now paymentIntentId (some collected) }).finish n)
      | _ => none
  | .fail n now =>
      match w.tasks[n]? with
      | some (.failing paymentIntentId) =>
          some (({ w with billing := w.billing.runFail now paymentIntentId }).finish n)
      | _ => none
  | .lookUp n =>
      match w.tasks[n]? with
      | some (.lookingUp paymentIntentId collected) =>
          some (w.runLookUp n paymentIntentId collected)
      | _ => none
  | .record n now =>
      match w.tasks[n]? with
      | some (.recording paymentIntentId collected) =>
          some (({ w with
            billing := w.billing.runAutopay (w.db.recordAutopayCharge now paymentIntentId
              collected.1 collected.2.1 collected.2.2) }).goto n (.failing paymentIntentId))
      | _ => none
  | .crash n => some (w.finish n)

abbrev Reaches (C : World → Action → Prop) : World → World → Prop :=
  Transition.Steps (step stripe bounds parser creditText provenance) C

end Recharge

end ZeroRouter
