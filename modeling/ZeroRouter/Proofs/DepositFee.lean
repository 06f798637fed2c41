import ZeroRouter.Stripe.Pricing
import Mathlib.Data.Int.ConditionallyCompleteOrder
import Mathlib.Tactic.Linarith
import Mathlib.Tactic.Positivity
import Mathlib.Tactic.GCongr

/-!
# The price of a deposit is exact

Whole cents that fit an `i64` leave a `rust_decimal` room for every intermediate
result of the quote, so nothing is rounded but the fee, and that on purpose.
-/

namespace ZeroRouter

/-! ## Decimals that fit -/

/-- The scan for a scale goes down from 28. -/
theorem scales_descend : ((List.range 29).reverse).Pairwise (· > ·) := by
  rw [List.pairwise_reverse]
  exact List.pairwise_lt_range

/-- A value that is whole at some scale, and fits there, is kept as it is. -/
theorem fitDecimal_exact {x : Decimal} {scale : Nat} {n : ℤ} (hscale : scale ≤ 28)
    (whole : x * 10 ^ scale = n) (fits : |(n : Decimal)| ≤ decimalMax) :
    fitDecimal x = some x := by
  have scanned : scale ∈ (List.range 29).reverse := by
    rw [List.mem_reverse, List.mem_range]
    omega
  cases found : fitDecimal x with
  | none =>
      have refused := List.findSome?_eq_none_iff.mp found scale scanned
      simp only [whole, roundHalfEven_intCast, if_pos fits] at refused
      cases refused
  | some fit =>
      obtain ⟨above, first, below, scales, here, skipped⟩ := List.findSome?_eq_some_iff.mp found
      -- no larger scale is passed over for a smaller one than `scale`
      have reaches : scale ≤ first := by
        rw [scales] at scanned
        have descend := scales_descend
        rw [scales] at descend
        rcases List.mem_append.mp scanned with before | rest
        · have refused := skipped scale before
          simp only [whole, roundHalfEven_intCast, if_pos fits] at refused
          cases refused
        · rcases List.mem_cons.mp rest with rfl | after
          · exact le_refl _
          · have order := List.pairwise_cons.mp (List.pairwise_append.mp descend).2.1
            exact le_of_lt (order.1 scale after)
      have split : (10 : Decimal) ^ first = 10 ^ scale * 10 ^ (first - scale) := by
        rw [← pow_add, Nat.add_sub_cancel' reaches]
      have integral : x * 10 ^ first = ((n * 10 ^ (first - scale) : ℤ) : Decimal) := by
        rw [split, ← mul_assoc, whole]
        push_cast
        rfl
      simp only [integral, roundHalfEven_intCast] at here
      split at here
      · have nonzero : (10 : Decimal) ^ first ≠ 0 := by positivity
        rw [← Option.some.inj here, ← integral, mul_div_cancel_right₀ _ nonzero]
      · cases here

theorem i64_le_decimalMax {n : ℤ} (low : i64Min ≤ n) (high : n ≤ i64Max) {factor : Decimal}
    (positive : 0 ≤ factor) (small : factor ≤ 1000) : |factor * n| ≤ decimalMax := by
  have bound : |(n : Decimal)| ≤ 9223372036854775808 := by
    rw [abs_le]
    constructor
    · have low' : (i64Min : Decimal) ≤ n := by exact_mod_cast low
      norm_num [i64Min] at low'
      exact low'
    · have high' : (n : Decimal) ≤ (i64Max : ℤ) := by exact_mod_cast high
      norm_num [i64Max] at high'
      linarith
  calc |factor * n| = factor * |(n : Decimal)| := by rw [abs_mul, abs_of_nonneg positive]
    _ ≤ 1000 * 9223372036854775808 := by gcongr
    _ ≤ decimalMax := by norm_num [decimalMax]

/-! ## Whole cents -/

/-- `usd_to_cents` takes exactly the whole cents that fit. -/
theorem usdToCents_eq_some {amountUsd : Decimal} {cents : ℤ} :
    usdToCents amountUsd = some (some cents) ↔
      amountUsd * 100 = cents ∧ i64Min ≤ cents ∧ cents ≤ i64Max := by
  constructor
  · intro h
    unfold usdToCents at h
    split at h
    · cases h
    · next whole =>
        obtain ⟨fit, hfit, h⟩ := Option.map_eq_some_iff.mp h
        have integral : amountUsd * 100 = ((amountUsd * 100).num : Decimal) :=
          ((Rat.den_eq_one_iff _).mp (not_not.mp whole)).symm
        unfold decimalMul at hfit
        rw [integral] at hfit
        have same := fitDecimal_intCast hfit
        rw [same, Rat.num_intCast] at h
        split at h
        · next inside =>
            cases h
            exact ⟨integral, inside⟩
        · cases h
  · rintro ⟨integral, low, high⟩
    have whole : ¬ (amountUsd * 100).den ≠ 1 := by
      rw [integral, Rat.den_intCast]
      exact not_not.mpr rfl
    have exact' : decimalMul amountUsd 100 = some (cents : Decimal) := by
      unfold decimalMul
      rw [integral]
      refine fitDecimal_exact (Nat.zero_le 28) (n := cents) (by simp) ?_
      have fits := i64_le_decimalMax low high (zero_le_one' Decimal) (by norm_num)
      rwa [one_mul] at fits
    unfold usdToCents
    rw [if_neg whole, exact', Option.map_some, Rat.num_intCast, if_pos ⟨low, high⟩]

/-! ## The quote, in cents -/

/-- The rate of a rail's schedule. -/
def Rail.feeRate : Rail → Decimal
  | .card => depositFeeRate
  | .crypto => cryptoFeeRate

/-- The floor of a rail's schedule. -/
def Rail.feeFloorCents : Rail → ℤ
  | .card => 80
  | .crypto => 0

/-- The fee on a credit of whole cents. -/
def Rail.feeCents (rail : Rail) (creditCents : ℤ) : ℤ :=
  max ⌈rail.feeRate * creditCents⌉ rail.feeFloorCents

theorem Rail.feeRate_bounds (rail : Rail) : 0 < rail.feeRate ∧ rail.feeRate < 1 := by
  cases rail <;> norm_num [feeRate, depositFeeRate, cryptoFeeRate]

/-- Both rates have three decimals. -/
theorem Rail.feeRate_mills (rail : Rail) : ∃ mills : ℤ, 0 ≤ mills ∧ mills ≤ 1000 ∧
    rail.feeRate * 1000 = mills := by
  cases rail
  · exact ⟨55, by norm_num [feeRate, depositFeeRate]⟩
  · exact ⟨50, by norm_num [feeRate, cryptoFeeRate]⟩

/-- More credit never costs a smaller fee. -/
theorem Rail.feeCents_mono (rail : Rail) : Monotone rail.feeCents := by
  intro a b hab
  have scaled : rail.feeRate * a ≤ rail.feeRate * b := by
    have positive := rail.feeRate_bounds.1
    gcongr
  exact max_le_max (Int.ceil_mono scaled) (le_refl _)

/-- A positive credit costs a positive fee. -/
theorem Rail.feeCents_pos (rail : Rail) {creditCents : ℤ} (credit : 0 < creditCents) :
    0 < rail.feeCents creditCents := by
  refine lt_max_of_lt_left (Int.ceil_pos.mpr ?_)
  exact mul_pos rail.feeRate_bounds.1 (by exact_mod_cast credit)

/-- The gross tells the credit. -/
theorem Rail.gross_strictMono (rail : Rail) :
    StrictMono fun creditCents => creditCents + rail.feeCents creditCents := by
  intro a b hab
  exact add_lt_add_of_lt_of_le hab (rail.feeCents_mono hab.le)

theorem Rail.feeCents_bound (rail : Rail) (creditCents : ℤ) :
    |rail.feeCents creditCents| ≤ |creditCents| + 81 := by
  obtain ⟨positive, small⟩ := rail.feeRate_bounds
  have scaled : |rail.feeRate * creditCents| ≤ |(creditCents : Decimal)| := by
    rw [abs_mul, abs_of_pos positive]
    exact mul_le_of_le_one_left (abs_nonneg _) small.le
  have high : ⌈rail.feeRate * creditCents⌉ ≤ |creditCents| + 1 := by
    rw [Int.ceil_le]
    push_cast
    have above := le_abs_self (rail.feeRate * creditCents)
    linarith
  have low : -|creditCents| ≤ ⌈rail.feeRate * creditCents⌉ := by
    have below : -|(creditCents : Decimal)| ≤ rail.feeRate * creditCents :=
      (abs_le.mp scaled).1
    have ceiled := below.trans (Int.le_ceil (rail.feeRate * creditCents))
    exact_mod_cast ceiled
  have floor : 0 ≤ rail.feeFloorCents ∧ rail.feeFloorCents ≤ 80 := by
    cases rail <;> simp [feeFloorCents]
  unfold feeCents
  rw [abs_le]
  omega

section Quote

variable {creditUsd : Decimal} {creditCents : ℤ}

/-- The fee of the code is the fee in cents. -/
theorem Rail.feeUsd_eq (rail : Rail) (cents : creditUsd * 100 = creditCents) :
    max (ceilToCent (rail.feeRate * creditUsd)) (rail.feeFloorCents / 100 : Decimal) =
      (rail.feeCents creditCents : Decimal) / 100 := by
  have scaled : rail.feeRate * creditUsd * 100 = rail.feeRate * creditCents := by
    rw [mul_assoc, cents]
  unfold ceilToCent feeCents
  rw [scaled, max_div_div_right (by norm_num)]
  push_cast
  rfl

/-- The quote of whole cents is the credit, its fee and their sum. -/
theorem depositFeeQuote_exact (rail : Rail) (cents : creditUsd * 100 = creditCents)
    (low : i64Min ≤ creditCents) (high : creditCents ≤ i64Max) :
    depositFeeQuote creditUsd rail = some
      { creditUsd
        feeUsd := (rail.feeCents creditCents : Decimal) / 100
        grossUsd := ((creditCents + rail.feeCents creditCents : ℤ) : Decimal) / 100 } := by
  have credit : creditUsd = (creditCents : Decimal) / 100 := by linarith
  -- three decimals of rate and two of credit
  have percentage : decimalMul rail.feeRate creditUsd = some (rail.feeRate * creditUsd) := by
    obtain ⟨mills, nonneg, small, hmills⟩ := rail.feeRate_mills
    unfold decimalMul
    apply fitDecimal_exact (show 5 ≤ 28 by omega) (n := mills * creditCents)
    · calc rail.feeRate * creditUsd * 10 ^ 5
          = (rail.feeRate * 1000) * (creditUsd * 100) := by ring
        _ = ((mills * creditCents : ℤ) : Decimal) := by
            rw [hmills, cents]
            push_cast
            rfl
    · push_cast
      exact i64_le_decimalMax low high (by exact_mod_cast nonneg) (by exact_mod_cast small)
  have gross : decimalAdd creditUsd ((rail.feeCents creditCents : Decimal) / 100) =
      some (((creditCents + rail.feeCents creditCents : ℤ) : Decimal) / 100) := by
    have sum : creditUsd + (rail.feeCents creditCents : Decimal) / 100 =
        ((creditCents + rail.feeCents creditCents : ℤ) : Decimal) / 100 := by
      rw [credit]
      push_cast
      ring
    unfold decimalAdd
    rw [sum]
    apply fitDecimal_exact (show 2 ≤ 28 by omega) (n := creditCents + rail.feeCents creditCents)
    · ring
    · have bounded : |creditCents + rail.feeCents creditCents| ≤ 79228162514264337593543950335 := by
        have fee := rail.feeCents_bound creditCents
        have magnitude : |creditCents| ≤ 9223372036854775808 := by
          rw [abs_le]
          unfold i64Min at low
          unfold i64Max at high
          omega
        have triangle := abs_add_le creditCents (rail.feeCents creditCents)
        omega
      unfold decimalMax
      exact_mod_cast bounded
  have fee := rail.feeUsd_eq cents
  cases rail with
  | card =>
      have floor : depositFeeFloorUsd = ((80 : ℤ) : Decimal) / 100 := by norm_num [depositFeeFloorUsd]
      simp only [Rail.feeRate, Rail.feeFloorCents] at percentage fee
      rw [← floor] at fee
      simp only [depositFeeQuote, percentage, fee, gross, Option.bind_eq_bind, Option.bind_some]
      rfl
  | crypto =>
      simp only [Rail.feeRate, Rail.feeFloorCents, Int.cast_zero, zero_div] at percentage fee
      simp only [depositFeeQuote, percentage, fee, gross, Option.bind_eq_bind, Option.bind_some]
      rfl

end Quote

end ZeroRouter
