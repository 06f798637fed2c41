import ZeroRouter.Api.Schedule
import ZeroRouter.Stripe.Pricing

/-!
# A bill in 96 bits

`openai.rs` `usage_cost` once more, operation by operation as `rust_decimal` computes
it: every product, sum and quotient is kept at what 96 bits and 28 places hold of it.
`usageCost` is the same bill before anything is rounded.
-/

namespace ZeroRouter

/-- `Decimal::checked_div`. -/
def decimalDiv (a b : Decimal) : Option Decimal := fitDecimal (a / b)

/-- The bill of a split prompt: its parts at their own rates, the completion at the
    output rate, per million. -/
def ModelRates.bill (rates : ModelRates) (fresh cached written completion : Nat) :
    Option Decimal := do
  let charged ← decimalMul fresh rates.inputRate
  let reads ← decimalMul cached rates.cachedRate
  let charged ← decimalAdd charged reads
  let writes ← decimalMul written rates.writeRate
  let charged ← decimalAdd charged writes
  let output ← decimalMul completion rates.outputRate
  let charged ← decimalAdd charged output
  decimalDiv charged 1000000

/-- `openai.rs` `usage_cost`. -/
def roundedUsageCost (rates : ModelRates) (usage : OpenAiUsage) : Option Decimal := do
  let inputRate ← billableRate (rates.inputPerMtok.getD 0)
  let outputRate ← billableRate (rates.outputPerMtok.getD 0)
  let cachedRate ← billableRate (rates.cachedInputPerMtok.getD (rates.inputPerMtok.getD 0))
  let writeRate ← billableRate (rates.cacheWritePerMtok.getD (rates.inputPerMtok.getD 0))
  let cached := min usage.cachedInputTokens usage.promptTokens
  let written := min usage.cacheWriteTokens (usage.promptTokens - cached)
  let uncached := usage.promptTokens - cached - written
  let charged ← decimalMul uncached inputRate
  let reads ← decimalMul cached cachedRate
  let charged ← decimalAdd charged reads
  let writes ← decimalMul written writeRate
  let charged ← decimalAdd charged writes
  let output ← decimalMul usage.completionTokens outputRate
  let charged ← decimalAdd charged output
  decimalDiv charged 1000000

/-- The rates a table bills are each one `billable_rate` takes. -/
structure ModelRates.Priced (rates : ModelRates) : Prop where
  input : (billableRate rates.inputRate).isSome
  output : (billableRate rates.outputRate).isSome
  cached : (billableRate rates.cachedRate).isSome
  write : (billableRate rates.writeRate).isSome

/-- The exact bill, before it is divided by a million. -/
def ModelRates.exactBill (rates : ModelRates) (fresh cached written completion : Nat) : Decimal :=
  fresh * rates.inputRate + cached * rates.cachedRate + written * rates.writeRate +
    completion * rates.outputRate

/-- Every rate a table bills has at most `places` decimals. -/
structure ModelRates.AtScale (rates : ModelRates) (places : Nat) : Prop where
  input : ∃ n : ℤ, rates.inputRate * 10 ^ places = n
  output : ∃ n : ℤ, rates.outputRate * 10 ^ places = n
  cached : ∃ n : ℤ, rates.cachedRate * 10 ^ places = n
  write : ∃ n : ℤ, rates.writeRate * 10 ^ places = n

end ZeroRouter
