import ZeroRouter.Stripe.Webhook
import ZeroRouter.Db.Admission

/-!
# What a checkout sells

`src/router/src/stripe.rs` `create_checkout`, up to the point where it asks Stripe for a
session: the rail, the bounds and the price of what a buyer picked, and the form the
session is created from.  The settings are those `src/router/src/web.rs` reads at startup.
-/

namespace ZeroRouter

open Relational

/-- `StripeSettings`, as far as a checkout reads them.  A deployment whose bounds are not
    in order does not start. -/
structure StripeSettings where
  checkoutMinUsd : Decimal
  checkoutMaxUsd : Decimal
  cryptoRail : Bool
  min_positive : 0 < checkoutMinUsd
  min_le_max : checkoutMinUsd ≤ checkoutMaxUsd

/-- `StripeHttpError`, as far as `create_checkout` answers it; `panicked` is a request
    whose handler died and answered nothing. -/
inductive CheckoutFailure where
  | invalidRail
  | cryptoRailUnavailable
  | invalidAmount
  | cryptoAmountTooLarge
  | checkoutFailed
  | panicked
  deriving DecidableEq, Repr

/-- `Rail::as_str`. -/
def Rail.asStr : Rail → String
  | .card => "card"
  | .crypto => "crypto"

/-- `Rail::payment_method_type`: Stripe's name for it, which happens to be the same. -/
def Rail.paymentMethodType : Rail → String
  | .card => "card"
  | .crypto => "crypto"

/-- `resolve_rail`: no rail means the card rail, and a rail nobody knows means none. -/
def resolveRail (requested : Option String) (settings : StripeSettings) :
    Except CheckoutFailure Rail := do
  let rail ←
    match requested with
    | none => .ok .card
    | some raw => require (Rail.parse raw) .invalidRail
  ensure (¬ (rail = .crypto ∧ settings.cryptoRail = false)) CheckoutFailure.cryptoRailUnavailable
  return rail

/-- `validate_checkout_amount`. -/
def validateCheckoutAmount (amountUsd : Decimal) (settings : StripeSettings) :
    Except CheckoutFailure Int := do
  ensure (¬ (amountUsd < settings.checkoutMinUsd ∨ settings.checkoutMaxUsd < amountUsd))
    CheckoutFailure.invalidAmount
  let cents ← require (usdToCents amountUsd) .panicked
  require cents .invalidAmount

/-- `CRYPTO_MAX_EX_TAX_GROSS_USD`. -/
def cryptoMaxExTaxGrossUsd : Decimal := 8900

/-- `enforce_rail_ceiling`. -/
def enforceRailCeiling (grossUsd : Decimal) (rail : Rail) : Except CheckoutFailure Unit :=
  ensure (¬ (rail = .crypto ∧ cryptoMaxExTaxGrossUsd < grossUsd))
    CheckoutFailure.cryptoAmountTooLarge

/-! ## The price -/

/-- The buyer of a session and what they asked for. -/
structure CheckoutRequest where
  userId : Uuid
  email : String
  amountUsd : Decimal
  rail : Option String
  deriving DecidableEq, Repr

structure CheckoutSessionParams where
  userId : Uuid
  customerEmail : String
  creditUsd : Decimal
  feeUsd : Decimal
  grossUsd : Decimal
  creditCents : Int
  grossCents : Int
  rail : Rail
  cryptoRailLive : Bool
  returnUrl : String
  deriving DecidableEq, Repr

/-- `ReuseKey`. -/
abbrev ReuseKey := Uuid × Rail × Int

/-- The slot `create_checkout` looks for an open session in. -/
def CheckoutSessionParams.reuseKey (params : CheckoutSessionParams) : ReuseKey :=
  (params.userId, params.rail, params.grossCents)

/-- `create_checkout`, before it looks for a session to reuse. -/
def CheckoutRequest.price (request : CheckoutRequest) (settings : StripeSettings)
    (returnUrl : String) : Except CheckoutFailure CheckoutSessionParams := do
  let rail ← resolveRail request.rail settings
  let creditCents ← validateCheckoutAmount request.amountUsd settings
  let quote ← require (depositFeeQuote request.amountUsd rail) .panicked
  enforceRailCeiling quote.grossUsd rail
  let gross ← require (usdToCents quote.grossUsd) .panicked
  let grossCents ← require gross .invalidAmount
  return {
    userId := request.userId
    customerEmail := request.email
    creditUsd := request.amountUsd
    feeUsd := quote.feeUsd
    grossUsd := quote.grossUsd
    creditCents
    grossCents
    rail
    cryptoRailLive := settings.cryptoRail
    returnUrl }

/-! ## The form -/

/-- How metadata is written: `to_string` of a `Uuid` and of a `Decimal`. -/
structure MetadataText where
  uuid : Uuid → String
  decimal : Decimal → String

/-- The fields of a form, in the order they are pushed. -/
abbrev Form := List (String × String)

/-- `CHECKOUT_UI_MODE`. -/
def checkoutUiMode : String := "embedded_page"

/-- `CHECKOUT_PRODUCT_NAME`. -/
def checkoutProductName : String := "ZeroRouter credits"

/-- `CHECKOUT_FEE_PRODUCT_NAME`. -/
def checkoutFeeProductName : String := "Processing fee"

/-- `checkout_session_form`; `none` is `CheckoutError::Mispriced`. -/
def checkoutSessionForm (text : MetadataText) (params : CheckoutSessionParams) : Option Form := do
  -- the remainder, not a second fee
  let feeCents ← checkedSub params.grossCents params.creditCents
  if params.creditCents ≤ 0 ∨ feeCents < 0 ∨
      checkedAdd params.creditCents feeCents ≠ some params.grossCents then
    none
  else
    return [
        ("mode", "payment"),
        ("ui_mode", checkoutUiMode),
        ("line_items[0][price_data][currency]", checkoutCurrency),
        ("line_items[0][price_data][unit_amount]", toString params.creditCents),
        ("line_items[0][price_data][product_data][name]", checkoutProductName),
        ("line_items[0][quantity]", "1")] ++
      -- Stripe rejects a line of nothing
      (if 0 < feeCents then [
        ("line_items[1][price_data][currency]", checkoutCurrency),
        ("line_items[1][price_data][unit_amount]", toString feeCents),
        ("line_items[1][price_data][product_data][name]", checkoutFeeProductName),
        ("line_items[1][quantity]", "1")]
      else []) ++ [
        ("automatic_tax[enabled]", "true"),
        ("tax_id_collection[enabled]", "true"),
        ("billing_address_collection", "required")] ++
      (match params.rail with
      | .card =>
          if params.cryptoRailLive then
            [("excluded_payment_method_types[0]", Rail.paymentMethodType .crypto)]
          else []
      | .crypto => [("payment_method_types[0]", params.rail.paymentMethodType)]) ++ [
        ("metadata[user_id]", text.uuid params.userId),
        ("metadata[credit_usd]", text.decimal params.creditUsd),
        ("metadata[fee_usd]", text.decimal params.feeUsd),
        ("metadata[gross_usd]", text.decimal params.grossUsd)] ++
      -- a card session is the one from before there were rails
      (if params.rail ≠ .card then [("metadata[rail]", params.rail.asStr)] else []) ++ [
        ("customer_email", params.customerEmail),
        ("return_url", params.returnUrl)]

/-! ## What Stripe makes of it -/

/-- What line `n` of a form comes to. -/
def lineItem (form : Form) (n : Nat) : Option Int := do
  let unitAmount ← (form.lookup s!"line_items[{n}][price_data][unit_amount]").bind String.toInt?
  let quantity ← (form.lookup s!"line_items[{n}][quantity]").bind String.toInt?
  return unitAmount * quantity

/-- The lines from `n` on, up to the first that is missing. -/
def lineItemsFrom (form : Form) : Nat → Nat → List Int
  | 0, _ => []
  | fuel + 1, n =>
      match lineItem form n with
      | none => []
      | some amount => amount :: lineItemsFrom form fuel (n + 1)

/-- The lines a form sells; it has at most as many as fields. -/
def lineItems (form : Form) : List Int := lineItemsFrom form form.length 0

/-- The name in a metadata field's key. -/
def metadataName (key : String) : Option String :=
  let name := String.ofList (key.toList.drop 9).dropLast
  if key = s!"metadata[{name}]" then some name else none

/-- The metadata a form sends. -/
def Form.metadata (form : Form) : List (String × Value) :=
  form.filterMap fun field => (metadataName field.1).map fun name => (name, .string field.2)

/-- The object of the event Stripe sends once a session is paid: it carries the metadata as
    sent, and the total is that of the lines and of the tax it reports. -/
structure Value.Pays (object : Value) (form : Form) (sessionId : String) : Prop where
  id : object.str "id" = some sessionId
  paid : object.str "payment_status" = some "paid"
  currency : object.str "currency" = some "usd"
  metadata : ∀ name, (object.get "metadata").bind (·.str name) =
    (form.metadata.lookup name).bind Value.asStr
  total : ∃ tax, reportedTax object = some tax ∧
    (object.get "amount_total").bind Value.asI64 = some ((lineItems form).sum + tax)

/-- Such an object, with nothing else in it. -/
def paidObject (form : Form) (sessionId : String) (taxCents : Int) : Value :=
  .object
    [("id", .string sessionId), ("payment_status", .string "paid"), ("currency", .string "usd"),
      ("metadata", .object form.metadata),
      ("amount_total", .integer ((lineItems form).sum + taxCents)),
      ("total_details", .object [("amount_tax", .integer taxCents)])]

theorem paidObject_pays {form : Form} {sessionId : String} {taxCents : Int} (tax : 0 ≤ taxCents)
    (positive : 0 ≤ (lineItems form).sum) (fits : (lineItems form).sum + taxCents ≤ i64Max) :
    (paidObject form sessionId taxCents).Pays form sessionId where
  id := rfl
  paid := rfl
  currency := rfl
  metadata _ := rfl
  total := by
    refine ⟨taxCents, ?_, ?_⟩
    · show (Value.asI64 (.integer taxCents)).filter (0 ≤ ·) = some taxCents
      have inside : i64Min ≤ taxCents ∧ taxCents ≤ i64Max := by
        unfold i64Min i64Max at *
        omega
      simp [Value.asI64, if_pos inside, tax]
    · show Value.asI64 (.integer _) = _
      have inside : i64Min ≤ (lineItems form).sum + taxCents := by
        unfold i64Min
        omega
      simp [Value.asI64, inside, fits]

theorem metadataName_eq_some {key name : String} :
    metadataName key = some name ↔ key = s!"metadata[{name}]" := by
  constructor
  · intro h
    unfold metadataName at h
    simp only at h
    split at h
    · next same =>
        rw [← Option.some.inj h]
        exact same
    · cases h
  · rintro rfl
    have inner : String.ofList ((s!"metadata[{name}]").toList.drop 9).dropLast = name := by
      have head : "metadata[".toList = ['m', 'e', 't', 'a', 'd', 'a', 't', 'a', '['] := rfl
      have last : "]".toList = [']'] := rfl
      show String.ofList (("metadata[" ++ name ++ "]").toList.drop 9).dropLast = name
      rw [String.toList_append, String.toList_append, head, last]
      simp
    unfold metadataName
    rw [inner]
    exact if_pos rfl

/-- The metadata of an event is the metadata of the form, name by name. -/
theorem Form.metadata_lookup (form : Form) (name : String) :
    form.metadata.lookup name = (form.lookup s!"metadata[{name}]").map Value.string := by
  induction form with
  | nil => rfl
  | cons field rest ih =>
      obtain ⟨key, value⟩ := field
      unfold metadata at ih ⊢
      by_cases here : key = s!"metadata[{name}]"
      · simp only [List.filterMap_cons, metadataName_eq_some.mpr here, Option.map_some]
        rw [here, List.lookup_cons_self, List.lookup_cons_self, Option.map_some]
      · have missed : (s!"metadata[{name}]" == key) = false := by
          simpa using Ne.symm here
        rw [List.lookup_cons, missed, ← ih, List.filterMap_cons]
        cases hname : metadataName key with
        | none => rfl
        | some other =>
            have apart : (name == other) = false := by
              simp only [beq_eq_false_iff_ne]
              rintro rfl
              exact here (metadataName_eq_some.mp hname)
            rw [Option.map_some]
            show List.lookup name ((other, Value.string value) :: _) = _
            rw [List.lookup_cons, apart]

end ZeroRouter
