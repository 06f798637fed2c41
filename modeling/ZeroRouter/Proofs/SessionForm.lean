import ZeroRouter.Stripe.Checkout
import ZeroRouter.Proofs.DepositFee
import ZeroRouter.Proofs.Purchase
import Mathlib

/-!
# A priced session pays for itself

The quote of a checkout, the lines of its form, the record of its purchase and the price
the webhook computes again are one number of cents, on both rails.
-/

namespace ZeroRouter

open Option Relational

/-! ## The price -/

/-- What a priced checkout keeps: its figures are one quote's, in cents. -/
structure CheckoutSessionParams.Quoted (params : CheckoutSessionParams) : Prop where
  credit : usdToCents params.creditUsd = some (some params.creditCents)
  positive : 0 < params.creditCents
  quote : depositFeeQuote params.creditUsd params.rail = some
    { creditUsd := params.creditUsd, feeUsd := params.feeUsd, grossUsd := params.grossUsd }
  gross : usdToCents params.grossUsd = some (some params.grossCents)
  split : params.grossCents = params.creditCents + params.rail.feeCents params.creditCents

theorem CheckoutRequest.price_ok {request : CheckoutRequest} {settings : StripeSettings}
    {returnUrl : String} {params : CheckoutSessionParams}
    (h : request.price settings returnUrl = .ok params) :
    params.Quoted ∧ params.userId = request.userId ∧ params.creditUsd = request.amountUsd ∧
      resolveRail request.rail settings = .ok params.rail := by
  simp only [price, validateCheckoutAmount, enforceRailCeiling, bind_eq_ok, require_eq_ok,
    ensure_eq_ok] at h
  obtain ⟨rail, hrail, creditCents, ⟨-, bounds, cents, hcents, rfl⟩, quote, hquote, -, -, gross,
    hgross, grossCents, rfl, h⟩ := h
  cases h
  obtain ⟨credit, low, high⟩ := usdToCents_eq_some.mp hcents
  have exactly := depositFeeQuote_exact rail credit low high
  have same := Option.some.inj (hquote.symm.trans exactly)
  subst same
  refine ⟨⟨hcents, ?_, exactly, hgross, ?_⟩, rfl, rfl, hrail⟩
  · have positive : 0 < request.amountUsd := by
      have minimum := settings.min_positive
      have inside := not_lt.mp (not_or.mp bounds).1
      linarith
    have scaled : (0 : Decimal) < creditCents := by
      rw [← credit]
      linarith
    exact_mod_cast scaled
  · have whole := (usdToCents_eq_some.mp hgross).1
    rw [div_mul_cancel₀ _ (by norm_num)] at whole
    exact_mod_cast whole.symm

/-- On one rail, the gross tells the credit. -/
theorem CheckoutSessionParams.Quoted.creditUsd_of_gross {a b : CheckoutSessionParams}
    (ha : a.Quoted) (hb : b.Quoted) (rail : a.rail = b.rail) (gross : a.grossCents = b.grossCents) :
    a.creditUsd = b.creditUsd := by
  have cents : a.creditCents = b.creditCents := by
    apply b.rail.gross_strictMono.injective
    show a.creditCents + b.rail.feeCents a.creditCents =
      b.creditCents + b.rail.feeCents b.creditCents
    rw [← hb.split, ← gross, ha.split, rail]
  have exactA := (usdToCents_eq_some.mp ha.credit).1
  have exactB := (usdToCents_eq_some.mp hb.credit).1
  rw [cents, ← exactB] at exactA
  linarith

/-! ## The form -/

section Form

variable {text : MetadataText} {params : CheckoutSessionParams} {form : Form}

theorem lineItem_priced {n : Nat} {amount : Int}
    (unitAmount : form.lookup s!"line_items[{n}][price_data][unit_amount]" = some (toString amount))
    (quantity : form.lookup s!"line_items[{n}][quantity]" = some "1") :
    lineItem form n = some amount := by
  have one : String.toInt? "1" = some 1 := Int.toInt?_repr 1
  have read : String.toInt? (toString amount) = some amount := Int.toInt?_repr amount
  unfold lineItem
  rw [unitAmount, quantity]
  simp only [bind_some, one, read, bind_eq_bind, pure_def, mul_one]

theorem lineItem_missing {n : Nat}
    (unitAmount : form.lookup s!"line_items[{n}][price_data][unit_amount]" = none) :
    lineItem form n = none := by
  unfold lineItem
  rw [unitAmount]
  rfl

/-- A quote is never mispriced. -/
theorem CheckoutSessionParams.Quoted.form_exists (quoted : params.Quoted) :
    ∃ form, checkoutSessionForm text params = some form := by
  have positive := quoted.positive
  have fee := params.rail.feeCents_pos positive
  have difference :
      params.grossCents - params.creditCents = params.rail.feeCents params.creditCents := by
    rw [quoted.split]
    omega
  obtain ⟨-, low, high⟩ := usdToCents_eq_some.mp quoted.gross
  have split := quoted.split
  have subtracted : checkedSub params.grossCents params.creditCents =
      some (params.rail.feeCents params.creditCents) := by
    unfold checkedSub
    rw [difference, if_pos]
    unfold i64Min i64Max at *
    omega
  have summed : checkedAdd params.creditCents (params.rail.feeCents params.creditCents) =
      some params.grossCents := by
    unfold checkedAdd
    rw [← split, if_pos ⟨low, high⟩]
  unfold checkoutSessionForm
  rw [subtracted, bind_eq_bind, bind_some, if_neg]
  · exact ⟨_, rfl⟩
  · rintro (negative | negative | mismatch)
    · omega
    · omega
    · exact mismatch summed

/-- What Stripe and the webhook read in a form: a line for the credit, a line for the fee,
    and the metadata of the sale. -/
structure Form.Sells (form : Form) (text : MetadataText) (params : CheckoutSessionParams) : Prop where
  lines : lineItems form = [params.creditCents, params.rail.feeCents params.creditCents]
  userId : form.lookup "metadata[user_id]" = some (text.uuid params.userId)
  creditUsd : form.lookup "metadata[credit_usd]" = some (text.decimal params.creditUsd)
  rail : form.lookup "metadata[rail]" =
    if params.rail = .card then none else some params.rail.asStr

theorem CheckoutSessionParams.Quoted.sells (quoted : params.Quoted)
    (h : checkoutSessionForm text params = some form) : form.Sells text params := by
  have fee := params.rail.feeCents_pos quoted.positive
  have difference :
      params.grossCents - params.creditCents = params.rail.feeCents params.creditCents := by
    rw [quoted.split]
    omega
  obtain ⟨feeCents, subtracted, h⟩ := bind_eq_some_iff.mp h
  obtain rfl : feeCents = params.rail.feeCents params.creditCents := by
    unfold checkedSub at subtracted
    split at subtracted
    · rw [← Option.some.inj subtracted, difference]
    · cases subtracted
  simp only [if_pos fee] at h
  split at h
  · cases h
  have lines : lineItem form 0 = some params.creditCents ∧
      lineItem form 1 = some (params.rail.feeCents params.creditCents) ∧
      lineItem form 2 = none := by
    cases h
    refine ⟨lineItem_priced ?_ ?_, lineItem_priced ?_ ?_, lineItem_missing ?_⟩
    all_goals cases params.rail <;> cases params.cryptoRailLive <;> rfl
  refine ⟨?_, ?_, ?_, ?_⟩
  · obtain ⟨first, second, third⟩ := lines
    obtain ⟨rest, hrest⟩ : ∃ rest, form.length = rest + 3 := by
      cases h
      exact ⟨_, rfl⟩
    unfold lineItems
    rw [hrest]
    simp [lineItemsFrom, first, second, third]
  all_goals
    cases h
    cases params.rail <;> cases params.cryptoRailLive <;> rfl

/-- The lines of a form are of something, and come to the gross of a quote. -/
structure SellsExactly (params : CheckoutSessionParams) (form : Form) : Prop where
  quote : depositFeeQuote params.creditUsd params.rail = some
    { creditUsd := params.creditUsd, feeUsd := params.feeUsd, grossUsd := params.grossUsd }
  positive : ∀ line ∈ lineItems form, 0 < line
  sum : usdToCents params.grossUsd = some (some (lineItems form).sum)

theorem CheckoutSessionParams.Quoted.sellsExactly (quoted : params.Quoted) (h : checkoutSessionForm text params = some form) :
    SellsExactly params form where
  quote := quoted.quote
  positive line hline := by
    rw [(quoted.sells h).lines] at hline
    rcases List.mem_cons.mp hline with rfl | rest
    · exact quoted.positive
    · rw [List.mem_singleton.mp rest]
      exact params.rail.feeCents_pos quoted.positive
  sum := by
    have total : (lineItems form).sum = params.grossCents := by
      rw [(quoted.sells h).lines, quoted.split]
      simp
    rw [total]
    exact quoted.gross

end Form

/-! ## The event -/

/-- The values a `rust_decimal` holds. -/
def IsRustDecimal (x : Decimal) : Prop :=
  ∃ scale ≤ 28, ∃ n : ℤ, x * 10 ^ scale = n ∧ |(n : Decimal)| ≤ decimalMax

/-- `Uuid::parse_str` and `Decimal::from_str` read what `to_string` wrote. -/
structure MetadataText.ReadBy (text : MetadataText) (parser : MetadataParser) : Prop where
  uuid : ∀ userId, parser.uuid (text.uuid userId) = some userId
  decimal : ∀ amountUsd, IsRustDecimal amountUsd →
    parser.decimal (text.decimal amountUsd) = some amountUsd

theorem isRustDecimal_of_cents {amountUsd : Decimal} {cents : Int}
    (h : usdToCents amountUsd = some (some cents)) : IsRustDecimal amountUsd := by
  obtain ⟨whole, low, high⟩ := usdToCents_eq_some.mp h
  refine ⟨2, by omega, cents, ?_, ?_⟩
  · rw [← whole]
    norm_num
  · have fits := i64_le_decimalMax low high (zero_le_one' Decimal) (by norm_num)
    rwa [one_mul] at fits

section Event

variable {parser : MetadataParser} {text : MetadataText} {params : CheckoutSessionParams}
  {form : Form} {object : Value} {sessionId : String}

/-- The event says what the form said. -/
theorem Value.Pays.lookup (pays : object.Pays form sessionId) (name : String) :
    (object.get "metadata").bind (·.str name) = form.lookup s!"metadata[{name}]" := by
  rw [pays.metadata, form.metadata_lookup]
  cases form.lookup s!"metadata[{name}]" <;> rfl

/-- The rail the metadata names is the rail of the sale: a card session names none. -/
theorem Form.Sells.claimedRail (sells : form.Sells text params) (pays : object.Pays form sessionId) :
    claimedRail (object.get "metadata") = .ok params.rail := by
  have named : (object.get "metadata").bind (·.str "rail") = form.lookup "metadata[rail]" :=
    pays.lookup "rail"
  unfold ZeroRouter.claimedRail
  rw [named, sells.rail]
  cases params.rail <;> rfl

/-- The event of a session that was priced corroborates itself. -/
theorem CheckoutSessionParams.Quoted.corroborateEvent (quoted : params.Quoted)
    (reads : text.ReadBy parser) (sells : form.Sells text params)
    (pays : object.Pays form sessionId) :
    ∃ taxCents, corroborateEvent parser object = .ok (some
      { sessionId
        userId := params.userId
        collected := { exTaxCents := params.grossCents, taxCents }
        currency := checkoutCurrency
        paymentIntent := object.str "payment_intent" }) := by
  obtain ⟨taxCents, reported, total⟩ := pays.total
  have user : (object.get "metadata").bind (·.str "user_id") = some (text.uuid params.userId) :=
    (pays.lookup "user_id").trans sells.userId
  have credit : (object.get "metadata").bind (·.str "credit_usd") =
      some (text.decimal params.creditUsd) := (pays.lookup "credit_usd").trans sells.creditUsd
  have lines : (lineItems form).sum = params.grossCents := by
    rw [sells.lines, quoted.split]
    simp
  obtain ⟨-, low, high⟩ := usdToCents_eq_some.mp quoted.gross
  have collected : collectedExTaxCents object (params.grossCents + taxCents) =
      some { exTaxCents := params.grossCents, taxCents } := by
    have difference : params.grossCents + taxCents - taxCents = params.grossCents := by omega
    simp only [collectedExTaxCents, reported, checkedSub, difference, if_pos (And.intro low high),
      bind_eq_bind, bind_some]
    rfl
  have readCredit := reads.decimal _ (isRustDecimal_of_cents quoted.credit)
  have positive : 0 < params.creditUsd := by
    have exactly := (usdToCents_eq_some.mp quoted.credit).1
    have scaled : (0 : Decimal) < params.creditCents := by exact_mod_cast quoted.positive
    linarith
  refine ⟨taxCents, ?_⟩
  unfold ZeroRouter.corroborateEvent
  rw [if_neg (not_not.mpr pays.paid)]
  simp only [bind_eq_ok, require_eq_ok, ensure_eq_ok]
  refine ⟨sessionId, pays.id, params.userId, ?_, params.creditUsd, ?_, (), positive, _, total,
    "usd", ?_, _, ?_, params.rail, sells.claimedRail pays, _, quoted.quote, _, quoted.gross, _, rfl,
    (), ⟨rfl, rfl⟩, rfl⟩
  · rw [user, bind_some, reads.uuid]
  · rw [credit, bind_some, readCredit]
  · rw [pays.currency]
    rfl
  · rw [lines]
    exact collected

end Event

end ZeroRouter
