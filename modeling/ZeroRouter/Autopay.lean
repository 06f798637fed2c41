import ZeroRouter.Billing
import ZeroRouter.Stripe.Pricing

/-!
# Autopay

`src/router/src/billing.rs` and `stripe.rs` `put_autopay`: the columns of `users` and
the rows of `stripe_autopay_intents` that autopay works on, and the statements and
transactions that change them.  An error means the statement or transaction rolled
back.
-/

namespace ZeroRouter

open Relational

/-! ## The schema -/

/-- The columns of `users` that only autopay uses (0002, 0008). -/
structure AutopaySettings where
  userId : Uuid
  stripeCustomerId : Option String
  autopayEnabled : Bool
  autopayThresholdUsd : Option Decimal
  autopayTopupUsd : Option Decimal
  autopayConsecutiveFailures : Nat
  deriving DecidableEq, Repr

@[mk_iff]
structure AutopaySettingsCheck (row : AutopaySettings) : Prop where
  thresholdIsNonnegative : ∀ threshold ∈ row.autopayThresholdUsd, 0 ≤ threshold
  topupIsPositive : ∀ topup ∈ row.autopayTopupUsd, 0 < topup
  enabledIsConfigured : row.autopayEnabled = true →
    row.autopayThresholdUsd ≠ none ∧ row.autopayTopupUsd ≠ none ∧ row.stripeCustomerId ≠ none

instance (row : AutopaySettings) : Decidable (AutopaySettingsCheck row) :=
  decidable_of_iff _ (autopaySettingsCheck_iff row).symm

def autopaySettingsTable : Schema AutopaySettings :=
  .keyed AutopaySettings.userId AutopaySettingsCheck

inductive AutopayStatus where
  | pending
  | succeeded
  | failed
  | withheld
  deriving DecidableEq, Repr

structure StripeAutopayIntent where
  paymentIntentId : String
  userId : Uuid
  /-- The net credit. -/
  amountUsd : Decimal
  /-- The gross, before tax. -/
  chargeAmountUsd : Decimal
  status : AutopayStatus
  taxAmountUsd : Option Decimal
  taxCalculationId : Option String
  createdAt : Timestamp
  updatedAt : Timestamp
  deriving DecidableEq, Repr

@[mk_iff]
structure StripeAutopayIntentCheck (row : StripeAutopayIntent) : Prop where
  amountIsPositive : 0 < row.amountUsd
  chargeCoversCredit : row.amountUsd ≤ row.chargeAmountUsd
  taxIsNonnegative : ∀ tax ∈ row.taxAmountUsd, 0 ≤ tax

instance (row : StripeAutopayIntent) : Decidable (StripeAutopayIntentCheck row) :=
  decidable_of_iff _ (stripeAutopayIntentCheck_iff row).symm

/-- `stripe_autopay_intents` (0008, 0016, 0018, 0021): keyed by intent, and at most one
    pending row a user. -/
def stripeAutopayIntentsTable : Schema StripeAutopayIntent where
  check := StripeAutopayIntentCheck
  clash a b := a.paymentIntentId = b.paymentIntentId ∨
    (a.status = .pending ∧ b.status = .pending ∧ a.userId = b.userId)
  clash_symm _ _ h := by
    rcases h with same | ⟨ha, hb, user⟩
    · exact .inl same.symm
    · exact .inr ⟨hb, ha, user.symm⟩
  decCheck := inferInstance
  decClash := fun _ _ => inferInstanceAs (Decidable (_ ∨ _))

/-- The database with autopay's part of it. -/
structure AutopayDb extends Db where
  autopaySettings : Table autopaySettingsTable
  stripeAutopayIntents : Table stripeAutopayIntentsTable

/-- An amount `usd_to_cents` converts. -/
def WholeCents (amountUsd : Decimal) : Prop := ∃ cents, usdToCents amountUsd = some (some cents)

instance (amountUsd : Decimal) : Decidable (WholeCents amountUsd) :=
  decidable_of_iff ((usdToCents amountUsd).join.isSome = true) <| by
    unfold WholeCents
    rcases usdToCents amountUsd with _ | _ | cents <;> simp

/-- The bounds a top-up is checked against. -/
structure CheckoutBounds where
  checkoutMinUsd : Decimal
  checkoutMaxUsd : Decimal
  deriving DecidableEq, Repr

/-- `validate_checkout_amount`. -/
def CheckoutBounds.admits (bounds : CheckoutBounds) (amountUsd : Decimal) : Prop :=
  bounds.checkoutMinUsd ≤ amountUsd ∧ amountUsd ≤ bounds.checkoutMaxUsd ∧ WholeCents amountUsd

instance (bounds : CheckoutBounds) (amountUsd : Decimal) : Decidable (bounds.admits amountUsd) :=
  inferInstanceAs (Decidable (_ ∧ _ ∧ _))

/-! ## Eligibility -/

/-- `AUTOPAY_ELIGIBILITY_PREDICATE`. -/
def autopayEligible (user : User) (settings : AutopaySettings) : Prop :=
  user.frozenAt = none ∧ 0 ≤ user.creditBalanceUsd ∧ settings.autopayConsecutiveFailures < 3

instance (user : User) (settings : AutopaySettings) : Decidable (autopayEligible user settings) :=
  inferInstanceAs (Decidable (_ ∧ _ ∧ _))

/-- The row `settle_autopay_intent` inserts. -/
def autopayEntry (userId : Uuid) (amountUsd : Decimal) (paymentIntentId : String)
    (balanceAfter : Decimal) : CreditLedger where
  userId := userId
  entryType := .autopay
  amountUsd := amountUsd
  balanceAfterUsd := balanceAfter
  stripeSessionId := some paymentIntentId
  stripePaymentIntentId := none
  requestId := none
  note := some "autopay recharge"

namespace AutopayDb

/-- The rows of one `users` row that satisfy a condition on all its columns. -/
def userWhere (db : AutopayDb) (userId : Uuid) (p : User → AutopaySettings → Prop) : Prop :=
  ∃ user ∈ db.users, user.id = userId ∧
    ∃ settings ∈ db.autopaySettings, settings.userId = userId ∧ p user settings

instance (db : AutopayDb) (userId : Uuid) (p : User → AutopaySettings → Prop)
    [∀ user settings, Decidable (p user settings)] : Decidable (db.userWhere userId p) :=
  inferInstanceAs (Decidable (∃ _ ∈ _, _ ∧ ∃ _ ∈ _, _ ∧ _))

/-- `autopay_still_armed`, and the check `replay_charge` makes before it posts. -/
def autopayStillArmed (db : AutopayDb) (userId : Uuid) : Prop :=
  db.userWhere userId fun user settings =>
    settings.autopayEnabled = true ∧ autopayEligible user settings

instance (db : AutopayDb) (userId : Uuid) : Decidable (db.autopayStillArmed userId) :=
  inferInstanceAs (Decidable (db.userWhere _ _))

/-- What `claim_autopay_attempt` re-reads of the user. -/
def claimable (db : AutopayDb) (userId : Uuid) (amountUsd : Decimal) : Prop :=
  db.userWhere userId fun user settings =>
    settings.autopayEnabled = true ∧ settings.autopayTopupUsd = some amountUsd ∧
      (∃ threshold ∈ settings.autopayThresholdUsd, user.creditBalanceUsd < threshold) ∧
      autopayEligible user settings

instance (db : AutopayDb) (userId : Uuid) (amountUsd : Decimal) :
    Decidable (db.claimable userId amountUsd) :=
  inferInstanceAs (Decidable (db.userWhere _ _))

/-! ## Claims -/

/-- The id a claim is held under until Stripe names its intent. -/
def localId (idempotencyKey : String) : String := "local_" ++ idempotencyKey

/-- A row as it is inserted. -/
def newIntent (now : Timestamp) (paymentIntentId : String) (userId : Uuid)
    (amountUsd chargeAmountUsd : Decimal) : StripeAutopayIntent where
  paymentIntentId := paymentIntentId
  userId := userId
  amountUsd := amountUsd
  chargeAmountUsd := chargeAmountUsd
  status := .pending
  taxAmountUsd := none
  taxCalculationId := none
  createdAt := now
  updatedAt := now

/-- `INSERT INTO stripe_autopay_intents`, with its foreign key. -/
def insertIntent (db : AutopayDb) (row : StripeAutopayIntent) : Except SqlError AutopayDb := do
  let stripeAutopayIntents ← liftViolation (db.stripeAutopayIntents.insert row)
  ensure (∃ user ∈ db.users, user.id = row.userId) SqlError.foreignKeyViolation
  return { db with stripeAutopayIntents }

/-- `INSERT … ON CONFLICT DO NOTHING`: whether the row went in. -/
def insertUnlessConflict (db : AutopayDb) (row : StripeAutopayIntent) :
    Except SqlError (Bool × AutopayDb) :=
  if ∃ old ∈ db.stripeAutopayIntents, stripeAutopayIntentsTable.clash old row then .ok (false, db)
  else do
    let db ← db.insertIntent row
    return (true, db)

/-- `claim_autopay_attempt`. -/
def claimAutopayAttempt (db : AutopayDb) (now : Timestamp) (userId : Uuid)
    (amountUsd chargeAmountUsd : Decimal) (idempotencyKey : String) :
    Except SqlError (Bool × AutopayDb) :=
  if db.claimable userId amountUsd then
    db.insertUnlessConflict
      (newIntent now (localId idempotencyKey) userId amountUsd chargeAmountUsd)
  else .ok (false, db)

/-- `UPDATE stripe_autopay_intents … WHERE p`, and how many rows it changed. -/
def updateIntents (db : AutopayDb) (p : StripeAutopayIntent → Prop) [DecidablePred p]
    (f : StripeAutopayIntent → StripeAutopayIntent) : Except SqlError (Nat × AutopayDb) := do
  let stripeAutopayIntents ← liftViolation (db.stripeAutopayIntents.updateWhere p f)
  return (countWhere p db.stripeAutopayIntents.rows, { db with stripeAutopayIntents })

/-- The first statement of `attach_autopay_intent`: the claim takes the intent's id,
    unless there is a row under it. -/
def renameClaim (db : AutopayDb) (now : Timestamp) (idempotencyKey paymentIntentId : String) :
    Except SqlError (Nat × AutopayDb) :=
  db.updateIntents
    (fun row => row.paymentIntentId = localId idempotencyKey ∧
      ¬ ∃ other ∈ db.stripeAutopayIntents, other.paymentIntentId = paymentIntentId)
    fun row => { row with paymentIntentId, updatedAt := now }

/-- The second statement, when the first renamed nothing. -/
def dropClaim (db : AutopayDb) (idempotencyKey : String) : AutopayDb :=
  { db with
    stripeAutopayIntents := db.stripeAutopayIntents.deleteWhere
      fun row => row.paymentIntentId = localId idempotencyKey }

/-- `freeze_autopay_tax`: the first figure stays. -/
def freezeAutopayTax (db : AutopayDb) (now : Timestamp) (paymentIntentId : String)
    (taxUsd : Decimal) (calculationId : Option String) : Except SqlError (Nat × AutopayDb) :=
  db.updateIntents (fun row => row.paymentIntentId = paymentIntentId ∧ row.status = .pending)
    fun row =>
      { row with
        taxAmountUsd := some (row.taxAmountUsd.getD taxUsd)
        taxCalculationId := if row.taxAmountUsd = none then calculationId else row.taxCalculationId
        updatedAt := now }

/-! ## Outcomes -/

/-- `UPDATE … SET status WHERE payment_intent_id AND status = 'pending'`. -/
def finishIntent (db : AutopayDb) (now : Timestamp) (paymentIntentId : String)
    (status : AutopayStatus) : Except SqlError (Nat × AutopayDb) :=
  db.updateIntents (fun row => row.paymentIntentId = paymentIntentId ∧ row.status = .pending)
    fun row => { row with status, updatedAt := now }

/-- A row by its id. -/
def intent? (db : AutopayDb) (paymentIntentId : String) : Option StripeAutopayIntent :=
  db.stripeAutopayIntents.find fun row => row.paymentIntentId = paymentIntentId

/-- A strike; the third disarms. -/
def AutopaySettings.strike (settings : AutopaySettings) : AutopaySettings :=
  { settings with
    autopayConsecutiveFailures := settings.autopayConsecutiveFailures + 1
    autopayEnabled := settings.autopayEnabled && settings.autopayConsecutiveFailures + 1 < 3 }

/-- `UPDATE users SET …` on the columns autopay uses. -/
def updateSettings (db : AutopayDb) (userId : Uuid) (f : AutopaySettings → AutopaySettings) :
    Except SqlError AutopayDb := do
  let autopaySettings ← liftViolation
    (db.autopaySettings.updateWhere (fun row => row.userId = userId) f)
  return { db with autopaySettings }

/-- `fail_autopay_intent`: whether this call was the one that failed it. -/
def failAutopayIntent (db : AutopayDb) (now : Timestamp) (paymentIntentId : String) :
    Except SqlError (Bool × AutopayDb) :=
  match db.stripeAutopayIntents.find
      fun row => row.paymentIntentId = paymentIntentId ∧ row.status = .pending with
  | none => .ok (false, db)
  | some intent => do
      let (_, failed) ← db.finishIntent now paymentIntentId .failed
      let struck ← failed.updateSettings intent.userId AutopaySettings.strike
      return (true, struck)

/-- `record_autopay_charge`. -/
def recordAutopayCharge (db : AutopayDb) (now : Timestamp) (paymentIntentId : String)
    (userId : Uuid) (amountUsd chargeAmountUsd : Decimal) : Except SqlError AutopayDb := do
  let (_, db) ← db.insertUnlessConflict
    (newIntent now paymentIntentId userId amountUsd chargeAmountUsd)
  return db

inductive AutopayOutcome where
  | credited
  | alreadySettled
  | unknown
  | withheld
  deriving DecidableEq, Repr

/-- The recovered row of a success event: inserted unless the intent has one. -/
def recoverIntent (db : AutopayDb) (now : Timestamp) (paymentIntentId : String)
    (recovered : Uuid × Decimal × Decimal) : Except SqlError AutopayDb :=
  if ∃ row ∈ db.stripeAutopayIntents, row.paymentIntentId = paymentIntentId then .ok db
  else
    db.insertIntent (newIntent now paymentIntentId recovered.1 recovered.2.1 recovered.2.2)

/-- The conditional credit of a row just moved to `succeeded`, or its withholding. -/
def creditAutopay (db : AutopayDb) (now : Timestamp) (intent : StripeAutopayIntent) :
    Except SqlError (AutopayOutcome × AutopayDb) :=
  if db.autopayStillArmed intent.userId then do
    let reset ← db.updateSettings intent.userId fun row =>
      { row with autopayConsecutiveFailures := 0 }
    let credited ← reset.toDb.moveBalance intent.userId false .rowNotFound intent.amountUsd
      (autopayEntry intent.userId intent.amountUsd intent.paymentIntentId)
    let reversed ← credited.applyObservedReversals now intent.userId intent.paymentIntentId
      intent.amountUsd
    return (.credited, { reset with toDb := reversed })
  else do
    let (_, withheld) ← db.updateIntents
      (fun row => row.paymentIntentId = intent.paymentIntentId)
      fun row => { row with status := .withheld, updatedAt := now }
    return (.withheld, withheld)

/-- The pending→succeeded transition and what hangs on it. -/
def settlePending (db : AutopayDb) (now : Timestamp) (paymentIntentId : String) :
    Except SqlError (AutopayOutcome × AutopayDb) :=
  match db.stripeAutopayIntents.find
      fun row => row.paymentIntentId = paymentIntentId ∧ row.status = .pending with
  | none =>
      .ok (if (db.intent? paymentIntentId).isSome then .alreadySettled else .unknown, db)
  | some intent => do
      let (_, succeeded) ← db.finishIntent now paymentIntentId .succeeded
      succeeded.creditAutopay now intent

def disagreement (paymentIntentId : String) : String :=
  s!"autopay intent {paymentIntentId} stored amount disagrees with the " ++
    "                 corroborated collection; refusing to credit"

/-- `settle_autopay_intent`.  The inner error is the refusal of a row that disagrees
    with what was collected, after the row was failed and that committed. -/
def settleAutopayIntent (db : AutopayDb) (now : Timestamp) (paymentIntentId : String)
    (recovered : Option (Uuid × Decimal × Decimal)) :
    Except SqlError (Except SqlError AutopayOutcome × AutopayDb) :=
  match recovered with
  | none => do
      let (outcome, db) ← db.settlePending now paymentIntentId
      return (.ok outcome, db)
  | some collected => do
      let db ← db.recoverIntent now paymentIntentId collected
      match db.intent? paymentIntentId with
      | none => Except.error .rowNotFound
      | some stored =>
          if (stored.userId, stored.amountUsd, stored.chargeAmountUsd) = collected then
            let (outcome, db) ← db.settlePending now paymentIntentId
            return (.ok outcome, db)
          else
            let (_, failed) ← db.finishIntent now paymentIntentId .failed
            return (.error (.protocol (disagreement paymentIntentId)), failed)

/-! ## Arming -/

/-- `put_autopay`, turning it on, and whether it did: `hasCard` is what Stripe says of
    the customer's saved cards. -/
def armAutopay (db : AutopayDb) (bounds : CheckoutBounds) (userId : Uuid)
    (thresholdUsd topupUsd : Decimal) (hasCard : Bool) : Except SqlError (Bool × AutopayDb) :=
  if bounds.admits topupUsd ∧ 0 ≤ thresholdUsd ∧ thresholdUsd ≤ bounds.checkoutMaxUsd ∧
      hasCard = true ∧
      db.userWhere userId (fun _ settings => settings.stripeCustomerId ≠ none) then do
    let db ← db.updateSettings userId fun row =>
      { row with
        autopayEnabled := true
        autopayThresholdUsd := some thresholdUsd
        autopayTopupUsd := some topupUsd
        autopayConsecutiveFailures := 0 }
    return (true, db)
  else .ok (false, db)

/-- `put_autopay`, turning it off. -/
def disarmAutopay (db : AutopayDb) (userId : Uuid) : Except SqlError AutopayDb :=
  db.updateSettings userId fun row => { row with autopayEnabled := false }

end AutopayDb

end ZeroRouter
