import ZeroRouter.Autopay
import ZeroRouter.Db.Admission
import ZeroRouter.Stripe.Webhook

/-!
# Autopay at Stripe

`src/router/src/stripe.rs`, the off-session charge: what Stripe Tax is taken to have
answered, the request a claim is charged with, and what a `payment_intent` event says of
a charge.
-/

namespace ZeroRouter

open Relational

/-! ## Tax -/

/-- `TaxQuote`, and the `AutopayTax` a claim holds. -/
structure TaxQuote where
  taxUsd : Decimal
  calculationId : Option String
  deriving DecidableEq, Repr

/-- `TaxQuote::untaxed`. -/
def TaxQuote.untaxed : TaxQuote := { taxUsd := 0, calculationId := none }

/-- The fields read of a tax calculation. -/
structure TaxCalculation where
  id : Option String
  taxAmountExclusive : Option Int
  taxAmountInclusive : Option Int
  deriving DecidableEq, Repr

/-- `calculate_autopay_tax`, from the calculation Stripe answered with.  There is none when
    the card has no usable address or the call failed in any way. -/
def calculateAutopayTax (answered : Option TaxCalculation) : TaxQuote :=
  match answered with
  | some { id := some calculationId, taxAmountExclusive := some taxCents, taxAmountInclusive } =>
      if taxCents < 0 ∨ taxAmountInclusive.getD 0 ≠ 0 then .untaxed
      else { taxUsd := taxCents / 100, calculationId := some calculationId }
  | _ => .untaxed

/-! ## The charge -/

/-- The form `replay_charge` posts.  Its constants are left out; the texts of its amounts are
    what the amounts print as. -/
structure ChargeForm where
  amountCents : Int
  customer : String
  paymentMethod : String
  userId : Uuid
  creditUsd : Decimal
  feeUsd : Decimal
  grossUsd : Decimal
  provenance : String
  taxCents : Int
  taxCalculation : Option String
  deriving DecidableEq, Repr

/-- The gross of a top-up, in dollars and in cents.  `none` is a panic; an inner `none` is a
    gross that is no whole cent. -/
def cardGross (topupUsd : Decimal) : Option (DepositFeeQuote × Option Int) := do
  let quote ← depositFeeQuote topupUsd .card
  let cents ← usdToCents quote.grossUsd
  return (quote, cents)

/-- The form of a charge, once its tax is fixed; `none` refuses the claim. -/
def chargeForm (provenance : Uuid → Decimal → String) (customer paymentMethod : String)
    (userId : Uuid) (topupUsd : Decimal) (quote : DepositFeeQuote) (grossCents : Int)
    (tax : TaxQuote) : Option ChargeForm := do
  let taxCents ← ((usdToCents tax.taxUsd).join).filter (0 ≤ ·)
  let amountCents ← checkedAdd grossCents taxCents
  return {
    amountCents
    customer
    paymentMethod
    userId
    creditUsd := topupUsd
    feeUsd := quote.feeUsd
    grossUsd := quote.grossUsd
    provenance := provenance userId topupUsd
    taxCents
    taxCalculation := tax.calculationId }

/-! ## Events -/

/-- `AUTOPAY_PURPOSE`. -/
def autopayPurpose : String := "zerorouter_autopay"

/-- The value of a run of digits. -/
def digitsValue (digits : List Char) : Option Int :=
  if digits ≠ [] ∧ digits.all Char.isDigit then
    some (digits.foldl (fun value c => 10 * value + ((c.toNat : Int) - 48)) 0)
  else none

/-- `str::parse::<i64>`. -/
def parseI64 (raw : String) : Option Int :=
  (match raw.toList with
    | '-' :: digits => (digitsValue digits).map fun value => -value
    | '+' :: digits => digitsValue digits
    | digits => digitsValue digits).filter fun value => i64Min ≤ value ∧ value ≤ i64Max

/-- A metadata field that is a string. -/
def metadataStr (object : Value) (key : String) : Option String :=
  (object.get "metadata").bind (·.str key)

/-- Does the event carry the mark of a charge of ours?  `provenance` is the HMAC over the
    user and the credit as the metadata spells it. -/
def provenanceOk (parser : MetadataParser) (provenance : Uuid → String → String)
    (object : Value) : Bool :=
  match metadataStr object "user_id", metadataStr object "credit_usd",
      metadataStr object "provenance" with
  | some user, some credit, some mark =>
      (parser.uuid user).any fun userId => mark = provenance userId credit
  | _, _, _ => false

/-- The tax a success event says was charged: none if it is silent, and unusable if it is not a
    nonnegative number of cents. -/
def autopayTaxCents (object : Value) : Option Int :=
  match (object.get "metadata").bind (·.get "tax_cents") with
  | none | some .null => some 0
  | some reported => (reported.asStr.bind parseI64).filter (0 ≤ ·)

/-- What `handle_autopay_intent_event` goes on to do. -/
inductive AutopayReport where
  /-- Not ours, or not provably. -/
  | untouched
  /-- Record the charge, if its metadata can be read, and fail it. -/
  | failed (paymentIntentId : String) (recovered : Option (Uuid × Decimal × Decimal))
  /-- Settle it. -/
  | succeeded (paymentIntentId : String) (collected : Uuid × Decimal × Decimal)
  deriving DecidableEq, Repr

/-- `handle_autopay_intent_event`, its failed arm. -/
def readAutopayFailure (parser : MetadataParser) (object : Value) (paymentIntentId : String) :
    Except WebhookFailure AutopayReport :=
  match (metadataStr object "user_id").bind parser.uuid,
      (metadataStr object "credit_usd").bind parser.decimal with
  | some userId, some creditUsd => do
      let quote ← require (depositFeeQuote creditUsd .card) .panicked
      return .failed paymentIntentId (some (userId, creditUsd, quote.grossUsd))
  | _, _ => return .failed paymentIntentId none

/-- Its success arm: what Stripe collected has to be the gross of the credit and the tax. -/
def readAutopaySuccess (parser : MetadataParser) (object : Value) (paymentIntentId : String) :
    Except WebhookFailure AutopayReport := do
  let userId ← require ((metadataStr object "user_id").bind parser.uuid) .malformedEvent
  let creditUsd ← require ((metadataStr object "credit_usd").bind parser.decimal) .malformedEvent
  let amountReceived ← require ((object.get "amount_received").bind Value.asI64) .malformedEvent
  let currency ← require ((object.str "currency").map toAsciiLowercase) .malformedEvent
  let (quote, grossCents) ← require (cardGross creditUsd) .panicked
  let expectedGrossCents ← require grossCents .malformedEvent
  let taxCents ← require (autopayTaxCents object) .amountMismatch
  ensure (checkedSub amountReceived taxCents = some expectedGrossCents ∧
      currency = checkoutCurrency)
    WebhookFailure.amountMismatch
  return .succeeded paymentIntentId (userId, creditUsd, quote.grossUsd)

/-- `handle_autopay_intent_event`, up to the first statement it runs. -/
def readAutopayEvent (parser : MetadataParser) (provenance : Uuid → String → String)
    (event : StripeEvent) : Except WebhookFailure AutopayReport := do
  let paymentIntentId ← require (event.object.str "id") .malformedEvent
  if metadataStr event.object "purpose" ≠ some autopayPurpose then return .untouched
  else if ¬ provenanceOk parser provenance event.object then return .untouched
  else if event.eventType = "payment_intent.payment_failed" then
    readAutopayFailure parser event.object paymentIntentId
  else readAutopaySuccess parser event.object paymentIntentId

example : parseI64 "-12" = some (-12) ∧ parseI64 "+7" = some 7 ∧ parseI64 "1.5" = none := by
  decide

end ZeroRouter
