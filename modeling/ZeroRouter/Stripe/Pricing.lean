import ZeroRouter.Db.Record
import Mathlib.Data.Rat.Floor

/-!
# What a purchase costs

`src/router/src/stripe.rs`: the deposit fee a buyer pays on top of the credit,
and its conversion to the cents Stripe is quoted in.

`rust_decimal` keeps at most 28 decimals of a 96-bit integer.  Its operators
round what does not fit and panic on what no scale fits; a panic ends the request
that caused it and is `none` here.
-/

namespace ZeroRouter

/-- Banker's rounding. -/
def roundHalfEven (x : Decimal) : Int :=
  let below := ⌊x⌋
  let rest := x - below
  if rest < 1 / 2 then below
  else if 1 / 2 < rest then below + 1
  else if below % 2 = 0 then below
  else below + 1

/-- The `rust_decimal` nearest to an exact result, at the largest scale that holds it. -/
def fitDecimal (x : Decimal) : Option Decimal :=
  (List.range 29).reverse.findSome? fun scale =>
    let mantissa : Decimal := roundHalfEven (x * 10 ^ scale)
    if |mantissa| ≤ decimalMax then some (mantissa / 10 ^ scale) else none

theorem roundHalfEven_intCast (n : ℤ) : roundHalfEven (n : Decimal) = n := by
  simp [roundHalfEven]

theorem fitDecimal_intCast {n : ℤ} {fit : Decimal} (h : fitDecimal (n : Decimal) = some fit) :
    fit = n := by
  obtain ⟨scale, -, h⟩ := List.exists_of_findSome?_eq_some h
  have whole : (n : Decimal) * 10 ^ scale = ((n * 10 ^ scale : ℤ) : Decimal) := by push_cast; rfl
  simp only [whole, roundHalfEven_intCast] at h
  split at h
  · have nonzero : (10 : Decimal) ^ scale ≠ 0 := by positivity
    rw [← Option.some.inj h, ← whole, mul_div_cancel_right₀ _ nonzero]
  · cases h

/-- `impl Mul for Decimal`. -/
def decimalMul (a b : Decimal) : Option Decimal := fitDecimal (a * b)

/-- `impl Add for Decimal`. -/
def decimalAdd (a b : Decimal) : Option Decimal := fitDecimal (a + b)

/-- `stripe.rs` `usd_to_cents`: the amount in cents, unless it is finer than a cent
    or does not fit an `i64`. -/
def usdToCents (amountUsd : Decimal) : Option (Option Int) :=
  if (amountUsd * 100).den ≠ 1 then some none
  else (decimalMul amountUsd 100).map fun cents =>
    if i64Min ≤ cents.num ∧ cents.num ≤ i64Max then some cents.num else none

inductive Rail where
  | card
  | crypto
  deriving DecidableEq, Repr

/-- `Rail::parse`. -/
def Rail.parse (raw : String) : Option Rail :=
  if raw = "card" then some .card
  else if raw = "crypto" then some .crypto
  else none

/-- `DEPOSIT_FEE_RATE`. -/
def depositFeeRate : Decimal := 55 / 1000

/-- `DEPOSIT_FEE_FLOOR_USD`. -/
def depositFeeFloorUsd : Decimal := 80 / 100

/-- `CRYPTO_FEE_RATE`. -/
def cryptoFeeRate : Decimal := 5 / 100

structure DepositFeeQuote where
  creditUsd : Decimal
  feeUsd : Decimal
  grossUsd : Decimal
  deriving DecidableEq, Repr

/-- `round_dp_with_strategy(2, ToPositiveInfinity)`. -/
def ceilToCent (x : Decimal) : Decimal := ⌈x * 100⌉ / 100

/-- `stripe.rs` `deposit_fee_quote`: a rate of the credit, in whole cents, with a
    floor on the card rail only. -/
def depositFeeQuote (creditUsd : Decimal) (rail : Rail) : Option DepositFeeQuote := do
  let (rate, floor) : Decimal × Decimal :=
    match rail with
    | .card => (depositFeeRate, depositFeeFloorUsd)
    | .crypto => (cryptoFeeRate, 0)
  let percentage ← decimalMul rate creditUsd
  let feeUsd := max (ceilToCent percentage) floor
  let grossUsd ← decimalAdd creditUsd feeUsd
  return { creditUsd, feeUsd, grossUsd }

-- The smallest card deposit: the floor binds, and $5 is charged as $5.80.
example : depositFeeQuote 5 .card = some { creditUsd := 5, feeUsd := 4 / 5, grossUsd := 29 / 5 } := by
  decide +kernel

end ZeroRouter
