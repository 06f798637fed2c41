import ZeroRouter.Json
import ZeroRouter.Stripe.Pricing
import ZeroRouter.Db.Ledger

/-!
# What a checkout event is checked against

`src/router/src/stripe.rs` `stripe_webhook`, its checkout arm: the two layers a
signed event has to pass before anything is credited.  The first reads the event
alone, the second the purchase record of its session.  The signature only says
that Stripe sent the event; everything in it is somebody else's choice.
-/

namespace ZeroRouter

open Relational

namespace Value

variable {object : Value} {parser : MetadataParser} {paid : PaidSession} {purchase : Purchase}

/-- `Value::as_i64`. -/
def asI64 : Value → Option Int
  | .integer value => if i64Min ≤ value ∧ value ≤ i64Max then some value else none
  | _ => none

end Value

/-- A verified event: its type and the object it is about. -/
structure StripeEvent where
  eventType : String
  object : Value

/-- The handler an event type is routed to. -/
inductive WebhookArm where
  | autopayIntent
  | reversal
  | checkout
  | ignored
  deriving DecidableEq, Repr

def StripeEvent.arm (event : StripeEvent) : WebhookArm :=
  if event.eventType = "payment_intent.succeeded" ∨
      event.eventType = "payment_intent.payment_failed" then .autopayIntent
  else if event.eventType = "charge.dispute.created" ∨
      event.eventType = "charge.refunded" then .reversal
  else if event.eventType = "checkout.session.completed" ∨
      event.eventType = "checkout.session.async_payment_succeeded" then .checkout
  else .ignored

/-- `StripeHttpError`, as far as the checkout arm answers it; `panicked` is a
    request whose handler died and answered nothing. -/
inductive WebhookFailure where
  | malformedEvent
  | amountMismatch
  | unknownSession
  | unknownUser
  | databaseUnavailable
  | panicked
  deriving DecidableEq, Repr

/-- `stripe_webhook`'s answer to a credit that failed. -/
def WebhookFailure.ofSqlError : SqlError → WebhookFailure
  | .foreignKeyViolation => .unknownUser
  | _ => .databaseUnavailable

/-- `let Some(value) = … else return Err(failure)`. -/
def require {α ε : Type} (value : Option α) (failure : ε) : Except ε α :=
  match value with
  | some value => .ok value
  | none => .error failure

@[simp] theorem require_eq_ok {α ε : Type} {value : Option α} {failure : ε} {a : α} :
    require value failure = .ok a ↔ value = some a := by
  cases value <;> simp [require]

/-! ## Layer 1: the event corroborates itself -/

/-- How the two parsed metadata fields are read: `Uuid::parse_str` and
    `Decimal::from_str`. -/
structure MetadataParser where
  uuid : String → Option Uuid
  decimal : String → Option Decimal

/-- `CHECKOUT_CURRENCY`. -/
def checkoutCurrency : String := "usd"

/-- `str::to_ascii_lowercase`. -/
def toAsciiLowercase (text : String) : String := String.ofList (text.toList.map Char.toLower)

/-- `i64::checked_sub`. -/
def checkedSub (a b : Int) : Option Int :=
  if i64Min ≤ a - b ∧ a - b ≤ i64Max then some (a - b) else none

structure CollectedAmounts where
  exTaxCents : Int
  taxCents : Int
  deriving DecidableEq, Repr

/-- The tax an event reports: none if it is silent, and unusable if it is not a
    nonnegative number of cents. -/
def reportedTax (object : Value) : Option Int :=
  match (object.get "total_details").bind (·.get "amount_tax") with
  | none | some .null => some 0
  | some reported => reported.asI64.filter (0 ≤ ·)

/-- `stripe.rs` `collected_ex_tax_cents`. -/
def collectedExTaxCents (object : Value) (amountTotalCents : Int) : Option CollectedAmounts := do
  let taxCents ← reportedTax object
  let exTaxCents ← checkedSub amountTotalCents taxCents
  return { exTaxCents, taxCents }

/-- What a paid session says of itself, once it agrees with itself. -/
structure PaidSession where
  sessionId : String
  userId : Uuid
  collected : CollectedAmounts
  currency : String
  paymentIntent : Option String
  deriving DecidableEq, Repr

/-- The rail the metadata names; sessions older than the crypto rail name none. -/
def claimedRail (metadata : Option Value) : Except WebhookFailure Rail :=
  match metadata.bind (·.str "rail") with
  | none => .ok .card
  | some raw => require (Rail.parse raw) .malformedEvent

/-- Layer 1; `none` is a session that is not paid yet. -/
def corroborateEvent (parser : MetadataParser) (object : Value) :
    Except WebhookFailure (Option PaidSession) :=
  if object.str "payment_status" ≠ some "paid" then .ok none
  else do
    let sessionId ← require (object.str "id") .malformedEvent
    let metadata := object.get "metadata"
    let userId ← require ((metadata.bind (·.str "user_id")).bind parser.uuid) .malformedEvent
    let creditUsd ← require ((metadata.bind (·.str "credit_usd")).bind parser.decimal) .malformedEvent
    ensure (0 < creditUsd) WebhookFailure.malformedEvent
    let amountTotalCents ← require ((object.get "amount_total").bind Value.asI64) .malformedEvent
    let currency ← require ((object.str "currency").map toAsciiLowercase) .malformedEvent
    let collected ← require (collectedExTaxCents object amountTotalCents) .amountMismatch
    let rail ← claimedRail metadata
    let quote ← require (depositFeeQuote creditUsd rail) .panicked
    let grossCents ← require (usdToCents quote.grossUsd) .panicked
    let expectedGrossCents ← require grossCents .malformedEvent
    ensure (expectedGrossCents = collected.exTaxCents ∧ currency = checkoutCurrency)
      WebhookFailure.amountMismatch
    return some
      { sessionId
        userId
        collected
        currency
        paymentIntent := object.str "payment_intent" }

/-! ## Layer 2: ZeroRouter priced the session -/

/-- The arguments `credit_purchase` is called with. -/
structure Purchase where
  userId : Uuid
  creditUsd : Decimal
  sessionId : String
  paymentIntent : Option String
  deriving DecidableEq, Repr

/-- Layer 2: the recipient and the dollars come from the purchase record, which the
    event must not contradict. -/
def corroborateIntent (paid : PaidSession) (record : Option StripeCheckoutIntent) :
    Except WebhookFailure Purchase := do
  let intent ← require record .unknownSession
  ensure (intent.userId = paid.userId ∧
      intent.expectedAmountCents = paid.collected.exTaxCents ∧
      intent.currency = paid.currency)
    WebhookFailure.amountMismatch
  return {
    userId := intent.userId
    creditUsd := intent.expectedCreditUsd
    sessionId := paid.sessionId
    paymentIntent := paid.paymentIntent }

/-- Both layers, against the purchase record a lookup returns. -/
def corroborate (parser : MetadataParser) (lookup : String → Option StripeCheckoutIntent)
    (object : Value) : Except WebhookFailure (Option Purchase) := do
  match ← corroborateEvent parser object with
  | none => return none
  | some paid => return some (← corroborateIntent paid (lookup paid.sessionId))

/-! ## What passing says -/

/-- The event reports, for a session and in US dollars, a total less a nonnegative
    integer tax of `cents`. -/
def Value.Reports (object : Value) (sessionId : String) (cents : Int) : Prop :=
  object.str "id" = some sessionId ∧
    (object.str "currency").map toAsciiLowercase = some "usd" ∧
    ∃ total tax, (object.get "amount_total").bind Value.asI64 = some total ∧
      reportedTax object = some tax ∧ 0 ≤ tax ∧ total - tax = cents

theorem reportedTax_nonneg {tax : Int} (h : reportedTax object = some tax) :
    0 ≤ tax := by
  unfold reportedTax at h
  split at h
  · cases h
    exact le_refl 0
  · cases h
    exact le_refl 0
  · exact of_decide_eq_true (Option.filter_eq_some_iff.mp h).2

theorem collectedExTaxCents_eq_some {total : Int} {collected : CollectedAmounts}
    (h : collectedExTaxCents object total = some collected) :
    reportedTax object = some collected.taxCents ∧
      total - collected.taxCents = collected.exTaxCents := by
  unfold collectedExTaxCents at h
  obtain ⟨tax, htax, h⟩ := Option.bind_eq_some_iff.mp h
  obtain ⟨exTax, hexTax, h⟩ := Option.bind_eq_some_iff.mp h
  cases h
  refine ⟨htax, ?_⟩
  unfold checkedSub at hexTax
  split at hexTax
  · exact Option.some.inj hexTax
  · cases hexTax

/-- A session that corroborates itself reports what it collected. -/
theorem corroborateEvent_ok (h : corroborateEvent parser object = .ok (some paid)) :
    object.Reports paid.sessionId paid.collected.exTaxCents ∧ paid.currency = checkoutCurrency := by
  unfold corroborateEvent at h
  split at h
  · cases h
  simp only [bind_eq_ok, require_eq_ok, ensure_eq_ok] at h
  obtain ⟨sessionId, hid, userId, -, creditUsd, -, -, -, total, htotal, currency, hcurrency,
    collected, hcollected, rail, -, quote, -, gross, -, cents, -, -, ⟨-, usd⟩, h⟩ := h
  cases h
  obtain ⟨reported, difference⟩ := collectedExTaxCents_eq_some hcollected
  have nonneg := reportedTax_nonneg reported
  refine ⟨⟨hid, ?_, total, collected.taxCents, htotal, reported, nonneg, difference⟩, usd⟩
  rw [hcurrency, usd]
  rfl

theorem corroborateIntent_ok {record : Option StripeCheckoutIntent}
    (h : corroborateIntent paid record = .ok purchase) :
    ∃ intent, record = some intent ∧ intent.expectedAmountCents = paid.collected.exTaxCents ∧
      purchase.userId = intent.userId ∧ purchase.creditUsd = intent.expectedCreditUsd ∧
      purchase.sessionId = paid.sessionId := by
  simp only [corroborateIntent, bind_eq_ok, require_eq_ok, ensure_eq_ok] at h
  obtain ⟨intent, found, -, ⟨-, amount, -⟩, h⟩ := h
  cases h
  exact ⟨intent, found, amount, rfl, rfl, rfl⟩

/-- An event that passes both layers reports, for its session, what the session's
    purchase record expects. -/
theorem corroborate_ok {lookup : String → Option StripeCheckoutIntent}
    (h : corroborate parser lookup object = .ok (some purchase)) :
    ∃ intent, lookup purchase.sessionId = some intent ∧ purchase.userId = intent.userId ∧
      purchase.creditUsd = intent.expectedCreditUsd ∧
      object.Reports purchase.sessionId intent.expectedAmountCents := by
  simp only [corroborate, bind_eq_ok] at h
  obtain ⟨paid, hpaid, h⟩ := h
  cases paid with
  | none => cases h
  | some paid =>
      simp only [bind_eq_ok] at h
      obtain ⟨passed, hpassed, h⟩ := h
      cases h
      obtain ⟨intent, found, amount, user, credit, session⟩ := corroborateIntent_ok hpassed
      rw [session]
      refine ⟨intent, found, user, credit, ?_⟩
      rw [amount]
      exact (corroborateEvent_ok hpaid).1

end ZeroRouter
