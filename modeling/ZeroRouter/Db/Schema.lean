import ZeroRouter.Db.Record
import ZeroRouter.Lib.Table
import ZeroRouter.Lib.Civil
import Mathlib.Data.Rat.Floor

/-!
# The tables of `src/router/migrations`

Each row type lists the columns the metering and billing code reads or writes,
and each `…Check` structure is the conjunction of the table's `CHECK`
constraints as they stand after the last migration, one field a constraint.
A `Relational.Table` over the schema cannot hold a row that violates one, nor two
rows that share a `UNIQUE` key.
-/

namespace ZeroRouter

open Relational

/-- `BTRIM(text) <> ''`. -/
def nonBlank (text : String) : Bool := text.toList.any (· ≠ ' ')

/-! ## Accounts and keys -/

inductive FrozenReason where
  | dispute
  | operator
  deriving DecidableEq, Repr

structure User where
  id : Uuid
  creditBalanceUsd : Decimal
  frozenAt : Option Timestamp
  frozenReason : Option FrozenReason
  deriving DecidableEq, Repr

/-- `users` (0001, 0002, 0009). -/
def usersTable : Schema User :=
  .keyed User.id fun user => user.frozenAt.isNone = user.frozenReason.isNone

inductive CreditLimitWindow where
  | daily
  | weekly
  | monthly
  deriving DecidableEq, Repr

structure ApiKey where
  id : Uuid
  userId : Uuid
  spendCapUsd : Decimal
  velocityCapTokensPerMin : Int
  disabled : Bool
  expiresAt : Option Timestamp
  creditLimitUsd : Option Decimal
  creditLimitWindow : Option CreditLimitWindow
  deriving DecidableEq, Repr

@[mk_iff]
structure ApiKeyCheck (key : ApiKey) : Prop where
  spendCapIsNonnegative : 0 ≤ key.spendCapUsd
  velocityCapIsPositive : 0 < key.velocityCapTokensPerMin
  creditLimitIsPositive : ∀ limit ∈ key.creditLimitUsd, 0 < limit
  creditLimitWindowNeedsALimit : key.creditLimitWindow.isSome → key.creditLimitUsd.isSome

instance (key : ApiKey) : Decidable (ApiKeyCheck key) :=
  decidable_of_iff _ (apiKeyCheck_iff key).symm

/-- `api_keys` (0001, 0023). -/
def apiKeysTable : Schema ApiKey := .keyed ApiKey.id ApiKeyCheck

/-! ## Reservations -/

structure UsageReservation where
  id : Uuid
  apiKeyId : Uuid
  createdAt : Timestamp
  expiresAt : Timestamp
  reservedTokens : Int
  reservedCostUsd : Decimal
  settlementIntent : Option SettlementPayload
  settlementIntentAt : Option Timestamp
  settleAttempts : Int
  lastSettleError : Option String
  quarantinedAt : Option Timestamp
  dispatchedAt : Option Timestamp
  releasedAt : Option Timestamp
  releasedNote : Option String
  byokCatalogBasisUsd : Option Decimal
  deriving DecidableEq, Repr

@[mk_iff]
structure UsageReservationCheck (row : UsageReservation) : Prop where
  expireAfterCreation : row.createdAt < row.expiresAt
  tokensAreNonnegative : 0 ≤ row.reservedTokens
  costIsNonnegative : 0 ≤ row.reservedCostUsd
  intentCarriesItsTimestamp : row.settlementIntent.isNone = row.settlementIntentAt.isNone
  settleAttemptsAreNonnegative : 0 ≤ row.settleAttempts
  intentFollowsCreation : ∀ at' ∈ row.settlementIntentAt, row.createdAt ≤ at'
  quarantineRequiresEvidence : row.quarantinedAt = none ∨ row.settlementIntent ≠ none ∨
    row.dispatchedAt ≠ none
  releaseStatesItsReason : (row.releasedAt = none ∧ row.releasedNote = none) ∨
    (row.releasedAt ≠ none ∧ row.releasedNote.any nonBlank = true)
  releaseRequiresQuarantine : row.releasedAt = none ∨ row.quarantinedAt ≠ none
  byokCatalogBasisIsNonnegative : ∀ basis ∈ row.byokCatalogBasisUsd, 0 ≤ basis

instance (row : UsageReservation) : Decidable (UsageReservationCheck row) :=
  decidable_of_iff _ (usageReservationCheck_iff row).symm

/-- `usage_reservations` (0001, 0006, 0014, 0015, 0027). -/
def usageReservationsTable : Schema UsageReservation :=
  .keyed UsageReservation.id UsageReservationCheck

/-! ## Metering -/

structure UsageEvent where
  requestId : Uuid
  apiKeyId : Uuid
  ts : Timestamp
  tier : String
  upstreamProvider : String
  upstreamModel : String
  inputTokens : Int
  cachedInputTokens : Int
  outputTokens : Int
  costUsd : Decimal
  latencyMs : Int
  status : Int
  attemptsCostBasisUsd : Option Decimal
  attemptsCostBasisComplete : Option Bool
  attemptCount : Option Int
  reservedOutputTokens : Option Int
  reservedCostUsd : Option Decimal
  estimatorBasis : Option ReservationBasis
  byok : Option Bool
  byokCatalogUsd : Option Decimal
  cacheWriteInputTokens : Option Int
  deriving DecidableEq, Repr

@[mk_iff]
structure UsageEventCheck (event : UsageEvent) : Prop where
  inputTokensAreNonnegative : 0 ≤ event.inputTokens
  cachedTokensAreNonnegative : 0 ≤ event.cachedInputTokens
  cachedTokensDoNotExceedInput : event.cachedInputTokens ≤ event.inputTokens
  outputTokensAreNonnegative : 0 ≤ event.outputTokens
  costIsNonnegative : 0 ≤ event.costUsd
  latencyIsNonnegative : 0 ≤ event.latencyMs
  tierIsNonempty : nonBlank event.tier = true
  upstreamProviderIsNonempty : nonBlank event.upstreamProvider = true
  upstreamModelIsNonempty : nonBlank event.upstreamModel = true
  attemptsCostBasisIsNonnegative : ∀ basis ∈ event.attemptsCostBasisUsd, 0 ≤ basis
  attemptsCompletenessNeedsASum : event.attemptsCostBasisComplete = none ∨
    event.attemptsCostBasisUsd ≠ none
  attemptCountIsPositive : ∀ count ∈ event.attemptCount, 1 ≤ count
  reservedOutputIsNonnegative : ∀ bound ∈ event.reservedOutputTokens, 0 ≤ bound
  reservedCostIsNonnegative : ∀ cost ∈ event.reservedCostUsd, 0 ≤ cost
  byokCatalogIsNonnegative : ∀ catalog ∈ event.byokCatalogUsd, 0 ≤ catalog
  cacheWriteTokensAreNonnegative : ∀ written ∈ event.cacheWriteInputTokens, 0 ≤ written
  cacheBucketsFitThePrompt : ∀ written ∈ event.cacheWriteInputTokens,
    written + event.cachedInputTokens ≤ event.inputTokens

instance (event : UsageEvent) : Decidable (UsageEventCheck event) :=
  decidable_of_iff _ (usageEventCheck_iff event).symm

/-- `usage_events` (0001, 0004, 0007, 0027, 0029).  Append-only: the trigger of
    0001 refuses `UPDATE`, `DELETE` and `TRUNCATE`, so no operation offers them. -/
def usageEventsTable : Schema UsageEvent := .keyed UsageEvent.requestId UsageEventCheck

structure RequestAttempt where
  requestId : Uuid
  apiKeyId : Uuid
  userId : Uuid
  ts : Timestamp
  attemptNo : Int
  candidateId : String
  upstreamProvider : String
  upstreamModel : String
  outcome : String
  served : Bool
  latencyMs : Int
  inputTokens : Option Int
  cachedInputTokens : Option Int
  cacheWriteInputTokens : Option Int
  outputTokens : Option Int
  tokensEstimated : Bool
  costBasisUsd : Option Decimal
  deriving DecidableEq, Repr

/-- `request_attempts_outcome_is_known`. -/
def attemptOutcomes : List String :=
  ["ok", "validation_failed", "upstream_error", "timeout", "rate_limited", "stream_error",
    "aborted", "health_skipped", "policy_skipped"]

@[mk_iff]
structure RequestAttemptCheck (attempt : RequestAttempt) : Prop where
  attemptNoIsPositive : 1 ≤ attempt.attemptNo
  outcomeIsKnown : attempt.outcome ∈ attemptOutcomes
  latencyIsNonnegative : 0 ≤ attempt.latencyMs
  inputIsNonnegative : ∀ tokens ∈ attempt.inputTokens, 0 ≤ tokens
  cachedInputIsNonnegative : ∀ tokens ∈ attempt.cachedInputTokens, 0 ≤ tokens
  cacheWriteIsNonnegative : ∀ tokens ∈ attempt.cacheWriteInputTokens, 0 ≤ tokens
  outputIsNonnegative : ∀ tokens ∈ attempt.outputTokens, 0 ≤ tokens
  costBasisIsNonnegative : ∀ basis ∈ attempt.costBasisUsd, 0 ≤ basis

instance (attempt : RequestAttempt) : Decidable (RequestAttemptCheck attempt) :=
  decidable_of_iff _ (requestAttemptCheck_iff attempt).symm

/-- `request_attempts` (0004, 0029): one row an ordinal, and at most one served
    row, per request. -/
def requestAttemptsTable : Schema RequestAttempt where
  check := RequestAttemptCheck
  clash a b := a.requestId = b.requestId ∧ (a.attemptNo = b.attemptNo ∨ a.served ∧ b.served)
  clash_symm _ _ h := ⟨h.1.symm, h.2.imp Eq.symm And.symm⟩
  decCheck := inferInstance
  decClash := fun _ _ => inferInstanceAs (Decidable (_ ∧ _))

/-! ## Money -/

inductive EntryType where
  | purchase
  | usage
  | refund
  | promo
  | adjustment
  | autopay
  | writeoff
  | recovery
  | tax
  deriving DecidableEq, Repr

structure CreditLedger where
  userId : Uuid
  entryType : EntryType
  amountUsd : Decimal
  balanceAfterUsd : Decimal
  stripeSessionId : Option String
  stripePaymentIntentId : Option String
  requestId : Option Uuid
  note : Option String
  deriving DecidableEq, Repr

@[mk_iff]
structure CreditLedgerCheck (row : CreditLedger) : Prop where
  amountIsNonzero : row.amountUsd ≠ 0
  usageEntriesAreDebits : row.entryType = .usage → row.amountUsd < 0
  purchaseEntriesAreCredits : row.entryType = .purchase → 0 < row.amountUsd
  usageReferencesRequest : row.entryType = .usage ↔ row.requestId ≠ none
  purchaseReferencesStripeSession : row.entryType = .purchase → row.stripeSessionId ≠ none
  autopayEntriesAreCredits : row.entryType = .autopay →
    0 < row.amountUsd ∧ row.stripeSessionId ≠ none
  refundEntriesAreAnchoredDebits : row.entryType = .refund →
    row.amountUsd < 0 ∧ row.stripeSessionId ≠ none
  resolutionEntriesAreCredits : row.entryType = .writeoff ∨ row.entryType = .recovery →
    0 < row.amountUsd
  resolutionEntriesAreNotStripeAnchored : row.entryType = .writeoff ∨ row.entryType = .recovery →
    row.stripeSessionId = none ∧ row.stripePaymentIntentId = none
  resolutionEntriesStateTheirReason : row.entryType = .writeoff ∨ row.entryType = .recovery →
    row.note.any nonBlank = true
  taxEntriesAreDebits : row.entryType = .tax → row.amountUsd < 0

instance (row : CreditLedger) : Decidable (CreditLedgerCheck row) :=
  decidable_of_iff _ (creditLedgerCheck_iff row).symm

/-- `credit_ledger` (0002, 0008, 0009, 0013, 0025): append-only, with one row per
    Stripe object and one per request. -/
def creditLedgerTable : Schema CreditLedger where
  check := CreditLedgerCheck
  clash a b := (a.stripeSessionId ≠ none ∧ a.stripeSessionId = b.stripeSessionId) ∨
    (a.requestId ≠ none ∧ a.requestId = b.requestId)
  clash_symm _ _ h := by
    rcases h with ⟨ne, eq⟩ | ⟨ne, eq⟩
    · exact .inl ⟨eq ▸ ne, eq.symm⟩
    · exact .inr ⟨eq ▸ ne, eq.symm⟩
  decCheck := inferInstance
  decClash := fun _ _ => inferInstanceAs (Decidable (_ ∨ _))

structure StripeCheckoutIntent where
  stripeSessionId : String
  userId : Uuid
  createdAt : Timestamp
  expectedAmountCents : Int
  expectedCreditUsd : Decimal
  currency : String
  settledAt : Option Timestamp
  deriving DecidableEq, Repr

/-- `currency ~ '^[a-z]{3}$'`. -/
def isIso4217Lowercase (currency : String) : Bool :=
  currency.toList.length = 3 && currency.toList.all fun c => 'a' ≤ c && c ≤ 'z'

@[mk_iff]
structure StripeCheckoutIntentCheck (row : StripeCheckoutIntent) : Prop where
  sessionIdIsNonempty : nonBlank row.stripeSessionId = true
  amountIsPositive : 0 < row.expectedAmountCents
  creditIsPositive : 0 < row.expectedCreditUsd
  /-- `(credit * 100)::bigint` rounds half away from zero. -/
  grossCoversCredit : ⌊row.expectedCreditUsd * 100 + 1 / 2⌋ ≤ row.expectedAmountCents
  currencyIsIso4217Lowercase : isIso4217Lowercase row.currency = true
  settleAfterCreation : ∀ at' ∈ row.settledAt, row.createdAt ≤ at'

instance (row : StripeCheckoutIntent) : Decidable (StripeCheckoutIntentCheck row) :=
  decidable_of_iff _ (stripeCheckoutIntentCheck_iff row).symm

/-- `stripe_checkout_intents` (0005, 0016). -/
def stripeCheckoutIntentsTable : Schema StripeCheckoutIntent :=
  .keyed StripeCheckoutIntent.stripeSessionId StripeCheckoutIntentCheck

structure StripeObservedReversal where
  objectId : String
  paymentIntentId : String
  isDispute : Bool
  reversedCents : Option Int
  currency : Option String
  observedAt : Timestamp
  appliedAt : Option Timestamp
  deriving DecidableEq, Repr

@[mk_iff]
structure StripeObservedReversalCheck (row : StripeObservedReversal) : Prop where
  objectIdIsNonempty : nonBlank row.objectId = true
  paymentIntentIsNonempty : nonBlank row.paymentIntentId = true
  appliedAfterObserved : ∀ at' ∈ row.appliedAt, row.observedAt ≤ at'

instance (row : StripeObservedReversal) : Decidable (StripeObservedReversalCheck row) :=
  decidable_of_iff _ (stripeObservedReversalCheck_iff row).symm

/-- `stripe_observed_reversals` (0017). -/
def stripeObservedReversalsTable : Schema StripeObservedReversal :=
  .keyed StripeObservedReversal.objectId StripeObservedReversalCheck

/-! ## Derived totals -/

/-- 0019 `usage_event_utc_month`. -/
def usageEventUtcMonth (ts : Timestamp) : Timestamp := Civil.utcMonth.start ts

/-- 0023 `usage_event_utc_day`; a `DATE` is a day number. -/
def usageEventUtcDay (ts : Timestamp) : Int := Civil.dayOf ts

structure UsageKeyMonthSpend where
  apiKeyId : Uuid
  month : Timestamp
  spendUsd : Decimal
  byokCatalogUsd : Decimal
  deriving DecidableEq, Repr

@[mk_iff]
structure UsageKeyMonthSpendCheck (row : UsageKeyMonthSpend) : Prop where
  isNonnegative : 0 ≤ row.spendUsd
  isAMonthStart : row.month = usageEventUtcMonth row.month
  byokCatalogIsNonnegative : 0 ≤ row.byokCatalogUsd

instance (row : UsageKeyMonthSpend) : Decidable (UsageKeyMonthSpendCheck row) :=
  decidable_of_iff _ (usageKeyMonthSpendCheck_iff row).symm

/-- `usage_key_month_spend` (0019, 0027). -/
def usageKeyMonthSpendTable : Schema UsageKeyMonthSpend :=
  .keyed (fun row => (row.apiKeyId, row.month)) UsageKeyMonthSpendCheck

structure UsageKeyDaySpend where
  apiKeyId : Uuid
  day : Int
  spendUsd : Decimal
  deriving DecidableEq, Repr

/-- `usage_key_day_spend` (0023). -/
def usageKeyDaySpendTable : Schema UsageKeyDaySpend :=
  .keyed (fun row => (row.apiKeyId, row.day)) fun row => 0 ≤ row.spendUsd

structure UsageKeyTotalSpend where
  apiKeyId : Uuid
  spendUsd : Decimal
  deriving DecidableEq, Repr

/-- `usage_key_total_spend` (0023). -/
def usageKeyTotalSpendTable : Schema UsageKeyTotalSpend :=
  .keyed UsageKeyTotalSpend.apiKeyId fun row => 0 ≤ row.spendUsd

/-! ## The database -/

structure Db where
  users : Table usersTable
  apiKeys : Table apiKeysTable
  usageReservations : Table usageReservationsTable
  usageEvents : Table usageEventsTable
  requestAttempts : Table requestAttemptsTable
  creditLedger : Table creditLedgerTable
  stripeCheckoutIntents : Table stripeCheckoutIntentsTable
  stripeObservedReversals : Table stripeObservedReversalsTable
  usageKeyMonthSpend : Table usageKeyMonthSpendTable
  usageKeyDaySpend : Table usageKeyDaySpendTable
  usageKeyTotalSpend : Table usageKeyTotalSpendTable

/-- Accounts and keys, and nothing else. -/
def Db.fresh (users : Table usersTable) (apiKeys : Table apiKeysTable) : Db where
  users := users
  apiKeys := apiKeys
  usageReservations := .empty
  usageEvents := .empty
  requestAttempts := .empty
  creditLedger := .empty
  stripeCheckoutIntents := .empty
  stripeObservedReversals := .empty
  usageKeyMonthSpend := .empty
  usageKeyDaySpend := .empty
  usageKeyTotalSpend := .empty

/-! ## Transactions -/

/-- How a transaction's `COMMIT` ends for its client. -/
inductive Fate where
  | commit
  | rollback
  | commitUnseen
  deriving DecidableEq, Repr

def Fate.committed : Fate → Bool
  | .rollback => false
  | .commit | .commitUnseen => true

end ZeroRouter
