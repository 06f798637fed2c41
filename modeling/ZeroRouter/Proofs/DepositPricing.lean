import ZeroRouter.Proofs.Rounding

/-!
# Deposit pricing over every decimal

`usd_to_cents` multiplies before it looks whether the cents fit, and `rust_decimal`
panics where a product leaves its range: an amount whose hundredfold is whole and past
96 bits ends the request instead of being refused.  Every amount a deposit can be quoted
in is far below, and there the quote is exact.
-/

namespace ZeroRouter

/-- A whole number that is kept fits 96 bits. -/
theorem fitDecimal_intCast_le {n : ℤ} {kept : Decimal}
    (h : fitDecimal (n : Decimal) = some kept) : |(n : Decimal)| ≤ decimalMax := by
  obtain ⟨scale, held⟩ := fitDecimal_keptAt h
  have whole : (n : Decimal) * 10 ^ scale = ((n * 10 ^ scale : ℤ) : Decimal) := by
    push_cast
    rfl
  have fits := held.fits
  have positive : |(10 : Decimal) ^ scale| = 10 ^ scale := abs_of_pos (by positivity)
  rw [whole, roundHalfEven_intCast, ← whole, abs_mul, positive] at fits
  have unit : (1 : Decimal) ≤ 10 ^ scale := one_le_pow₀ (by norm_num)
  exact (le_mul_of_one_le_right (abs_nonneg _) unit).trans fits

/-- `usd_to_cents` answers for an amount as it is documented to: the cents where the
    amount is whole cents that fit an `i64`, and `None` otherwise. -/
def ExactCents (amountUsd : Decimal) : Prop :=
  ∃ answer, usdToCents amountUsd = some answer ∧
    ∀ cents : ℤ, answer = some cents ↔ amountUsd * 100 = cents ∧ i64Min ≤ cents ∧ cents ≤ i64Max

/-- Its hundredfold leaves the decimal range only between two cents. -/
def HundredfoldFits (amountUsd : Decimal) : Prop :=
  ∀ cents : ℤ, amountUsd * 100 = cents → |amountUsd * 100| ≤ decimalMax

theorem exactCents_iff (amountUsd : Decimal) :
    ExactCents amountUsd ↔ HundredfoldFits amountUsd := by
  constructor
  · rintro ⟨answer, answered, -⟩ cents whole
    have integral : ¬ (amountUsd * 100).den ≠ 1 := by
      rw [whole, Rat.den_intCast]
      exact not_not.mpr rfl
    unfold usdToCents at answered
    rw [if_neg integral] at answered
    obtain ⟨kept, product, -⟩ := Option.map_eq_some_iff.mp answered
    unfold decimalMul at product
    rw [whole] at product ⊢
    exact fitDecimal_intCast_le product
  · intro fits
    have exactly : ∀ answer, usdToCents amountUsd = some answer → ∀ cents : ℤ,
        answer = some cents ↔ amountUsd * 100 = cents ∧ i64Min ≤ cents ∧ cents ≤ i64Max := by
      intro answer answered cents
      rw [← usdToCents_eq_some, answered, Option.some.injEq]
    by_cases finer : (amountUsd * 100).den ≠ 1
    · have answered : usdToCents amountUsd = some none := by
        unfold usdToCents
        rw [if_pos finer]
      exact ⟨none, answered, exactly none answered⟩
    · have whole : amountUsd * 100 = ((amountUsd * 100).num : Decimal) :=
        ((Rat.den_eq_one_iff _).mp (not_not.mp finer)).symm
      have inside := fits _ whole
      rw [whole] at inside
      have product : decimalMul amountUsd 100 = some ((amountUsd * 100).num : Decimal) := by
        unfold decimalMul
        rw [whole]
        exact fitDecimal_exact (Nat.zero_le 28) (by simp) inside
      have answered : usdToCents amountUsd = some
          (if i64Min ≤ (amountUsd * 100).num ∧ (amountUsd * 100).num ≤ i64Max then
            some (amountUsd * 100).num
          else none) := by
        unfold usdToCents
        rw [if_neg finer, product, Option.map_some, Rat.num_intCast]
      exact ⟨_, answered, exactly _ answered⟩

/-! ## The quote -/

/-- The floor, where a rail has one, and the rate bound the fee below, and no smaller
    whole number of cents does. -/
structure LeastFee (rail : Rail) (creditUsd feeUsd : Decimal) : Prop where
  whole : ∃ cents : ℤ, feeUsd * 100 = cents
  rate : rail.feeRate * creditUsd ≤ feeUsd
  floor : (rail.feeFloorCents : Decimal) / 100 ≤ feeUsd
  least : ∀ cents : ℤ, rail.feeRate * creditUsd ≤ (cents : Decimal) / 100 →
    rail.feeFloorCents ≤ cents → feeUsd ≤ (cents : Decimal) / 100

theorem Rail.leastFee (rail : Rail) {creditUsd : Decimal} {creditCents : ℤ}
    (cents : creditUsd * 100 = creditCents) :
    LeastFee rail creditUsd ((rail.feeCents creditCents : Decimal) / 100) := by
  have scaled : rail.feeRate * creditUsd = rail.feeRate * creditCents / 100 := by
    rw [← cents]
    ring
  have ceiled : (⌈rail.feeRate * creditCents⌉ : Decimal) ≤ rail.feeCents creditCents := by
    exact_mod_cast le_max_left ⌈rail.feeRate * creditCents⌉ rail.feeFloorCents
  have floored : (rail.feeFloorCents : Decimal) ≤ rail.feeCents creditCents := by
    exact_mod_cast le_max_right ⌈rail.feeRate * creditCents⌉ rail.feeFloorCents
  refine ⟨⟨rail.feeCents creditCents, by ring⟩, ?_, by gcongr, ?_⟩
  · rw [scaled]
    have above := Int.le_ceil (rail.feeRate * creditCents)
    gcongr
    exact above.trans ceiled
  · intro other rate floor
    rw [scaled] at rate
    have rate' : rail.feeRate * creditCents ≤ other := by linarith
    have least : rail.feeCents creditCents ≤ other := max_le (Int.ceil_le.mpr rate') floor
    have least' : (rail.feeCents creditCents : Decimal) ≤ other := by exact_mod_cast least
    gcongr

/-- On every credit the card fee is the larger: its floor up to $15.80, and from $2 on
    its rate. -/
theorem feeCents_crypto_lt_card (creditCents : ℤ) :
    Rail.crypto.feeCents creditCents < Rail.card.feeCents creditCents := by
  have cryptoRate : Rail.crypto.feeRate * creditCents = (creditCents : Decimal) / 20 := by
    simp only [Rail.feeRate, cryptoFeeRate]
    ring
  have cardRate : Rail.card.feeRate * creditCents = (creditCents : Decimal) * 11 / 200 := by
    simp only [Rail.feeRate, depositFeeRate]
    ring
  unfold Rail.feeCents
  rw [cryptoRate, cardRate]
  simp only [Rail.feeFloorCents]
  by_cases small : creditCents ≤ 1580
  · have capped : ⌈(creditCents : Decimal) / 20⌉ ≤ 79 := by
      rw [Int.ceil_le]
      have small' : (creditCents : Decimal) ≤ 1580 := by exact_mod_cast small
      push_cast
      linarith
    omega
  · have larger : ⌈(creditCents : Decimal) / 20⌉ + 1 ≤ ⌈(creditCents : Decimal) * 11 / 200⌉ := by
      rw [← Int.ceil_add_one]
      apply Int.ceil_mono
      have large : (1580 : Decimal) < creditCents := by exact_mod_cast not_le.mp small
      linarith
    omega

/-- `usd_to_cents` answers exactly, and without panicking, exactly for the amounts whose
    hundredfold is not whole or stays in range.  Every positive whole-cent credit that
    fits an `i64` is quoted on both rails: the fee is the least the rail's schedule
    allows, the gross is the credit and the fee, in whole cents, more for more credit,
    and more on the card rail than on the crypto rail. -/
theorem deposit_pricing_exact (amountUsd : Decimal) :
    (ExactCents amountUsd ↔ HundredfoldFits amountUsd) ∧
    ∀ (creditUsd : Decimal) (creditCents : ℤ), creditUsd * 100 = creditCents →
      0 < creditCents → creditCents ≤ i64Max →
      (∀ rail : Rail, ∃ quote, depositFeeQuote creditUsd rail = some quote ∧
        LeastFee rail creditUsd quote.feeUsd ∧
        quote.grossUsd = creditUsd + quote.feeUsd ∧
        (∃ cents : ℤ, quote.grossUsd * 100 = cents) ∧
        ∀ (moreUsd : Decimal) (moreCents : ℤ), moreUsd * 100 = moreCents →
          creditUsd < moreUsd → moreCents ≤ i64Max →
          ∃ dearer, depositFeeQuote moreUsd rail = some dearer ∧
            quote.grossUsd < dearer.grossUsd) ∧
      ∃ card crypto, depositFeeQuote creditUsd .card = some card ∧
        depositFeeQuote creditUsd .crypto = some crypto ∧ crypto.grossUsd < card.grossUsd := by
  refine ⟨exactCents_iff amountUsd, ?_⟩
  intro creditUsd creditCents cents positive high
  have low : i64Min ≤ creditCents := le_trans (by decide) positive.le
  have quoted := fun rail => depositFeeQuote_exact rail cents low high
  refine ⟨?_, _, _, quoted .card, quoted .crypto, ?_⟩
  · intro rail
    refine ⟨_, quoted rail, rail.leastFee cents, ?_, ⟨creditCents + rail.feeCents creditCents, ?_⟩,
      ?_⟩
    · push_cast
      rw [add_div, ← cents, mul_div_cancel_right₀ _ (by norm_num)]
    · ring
    · intro moreUsd moreCents cents' more high'
      have moreCredit : creditCents < moreCents := by
        have scaled : creditUsd * 100 < moreUsd * 100 := by linarith
        rw [cents, cents'] at scaled
        exact_mod_cast scaled
      refine ⟨_, depositFeeQuote_exact rail cents' (low.trans moreCredit.le) high', ?_⟩
      have grows := rail.gross_strictMono moreCredit
      have grows' : ((creditCents + rail.feeCents creditCents : ℤ) : Decimal) <
          ((moreCents + rail.feeCents moreCents : ℤ) : Decimal) := by exact_mod_cast grows
      show _ / 100 < _ / 100
      gcongr
  · have dearer := feeCents_crypto_lt_card creditCents
    have dearer' : ((creditCents + Rail.crypto.feeCents creditCents : ℤ) : Decimal) <
        ((creditCents + Rail.card.feeCents creditCents : ℤ) : Decimal) := by
      exact_mod_cast (by omega : creditCents + Rail.crypto.feeCents creditCents <
        creditCents + Rail.card.feeCents creditCents)
    show _ / 100 < _ / 100
    gcongr

theorem deposit_pricing_exact_smallest : HundredfoldFits (29 / 5) ∧
    ∃ quote, depositFeeQuote 5 .card = some quote ∧ LeastFee .card 5 quote.feeUsd := by
  obtain ⟨exactly, -⟩ := deposit_pricing_exact (29 / 5)
  obtain ⟨-, quoted⟩ := deposit_pricing_exact 5
  obtain ⟨rails, -⟩ := quoted 5 500 (by norm_num) (by decide) (by decide)
  obtain ⟨quote, hquote, least, -⟩ := rails .card
  refine ⟨exactly.mp ⟨some 580, by decide +kernel, ?_⟩, quote, hquote, least⟩
  intro cents
  rw [← usdToCents_eq_some]
  have answered : usdToCents (29 / 5) = some (some 580) := by decide +kernel
  simp [answered]

/-- A session whose metadata names a credit of 10^28 dollars, which parses: it is quoted,
    and converting the gross to cents panics. -/
theorem usd_to_cents_panics :
    ¬ ExactCents 10000000000000000000000000000 ∧
      ∃ quote, depositFeeQuote 10000000000000000000000000000 .card = some quote ∧
        usdToCents quote.grossUsd = none := by
  have panics : usdToCents 10000000000000000000000000000 = none := by decide +kernel
  refine ⟨?_, ?_⟩
  · rintro ⟨answer, answered, -⟩
    rw [panics] at answered
    cases answered
  · have quoted : (depositFeeQuote 10000000000000000000000000000 .card).any
        (fun quote => usdToCents quote.grossUsd = none) = true := by decide +kernel
    obtain ⟨quote, hquote, stuck⟩ := (Option.any_eq_true _ _).mp quoted
    exact ⟨quote, hquote, of_decide_eq_true stuck⟩

end ZeroRouter
