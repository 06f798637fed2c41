import ZeroRouter.Db.Record
import ZeroRouter.Lib.Allowance
import Mathlib.Tactic.NormNum

/-!
# The routing fee on a customer's own credential

`src/router/src/byok.rs`: the fee is a fixed rate of what the request would have
cost at catalog rates, charged only on what exceeds the user's monthly
allowance.
-/

namespace ZeroRouter

/-- `byok.rs` `fee_rate`: 5%. -/
def feeRate : Decimal := 5 / 100

/-- `byok.rs` `monthly_allowance`: $5,000 of catalog cost. -/
def monthlyAllowance : Decimal := 5000

/-- `byok.rs` `remaining_allowance`. -/
def remainingAllowance (consumed : Decimal) : Decimal := max (monthlyAllowance - consumed) 0

/-- `byok.rs` `billable_above_allowance`. -/
def billableAboveAllowance (catalogCost consumed : Decimal) : Decimal :=
  max (catalogCost - remainingAllowance consumed) 0

/-- `byok.rs` `apply_fee`. -/
def applyFee (catalogCost rate : Decimal) : Option Decimal := checkedMul catalogCost rate

/-- `db.rs` `reserves_no_byok_fee`: admission may hold nothing for a request the
    allowance is sure to cover and that can only settle at the fee rate. -/
def reservesNoByokFee (byok : ByokReservation) (consumed committed : Decimal) : Bool :=
  match byok.catalogBasis with
  | none => false
  | some basis => byok.whollyByok && basis ≤ remainingAllowance (consumed + committed)

theorem billableAboveAllowance_eq (catalogCost consumed : Decimal) :
    billableAboveAllowance catalogCost consumed =
      Allowance.billable monthlyAllowance catalogCost consumed := rfl

theorem feeRate_pos : 0 < feeRate := by norm_num [feeRate]

theorem applyFee_eq_some {catalogCost rate fee : Decimal}
    (h : applyFee catalogCost rate = some fee) : fee = catalogCost * rate := by
  unfold applyFee checkedMul at h
  split at h
  · exact (Option.some.inj h).symm
  · cases h

/-- A waiver means the whole basis fitted in what was left. -/
theorem reservesNoByokFee_eq_true {byok : ByokReservation} {consumed committed : Decimal} :
    reservesNoByokFee byok consumed committed = true ↔
      ∃ basis, byok.catalogBasis = some basis ∧ byok.whollyByok = true ∧
        basis ≤ remainingAllowance (consumed + committed) := by
  unfold reservesNoByokFee
  cases byok.catalogBasis <;> simp

end ZeroRouter
